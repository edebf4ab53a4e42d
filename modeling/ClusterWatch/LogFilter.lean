/-
Filters of the service's log.

A filter is a list of directives with commas between them.  It is written with its most specific
directives first: the longer target before the shorter, then the lexicographically greater;
directives that look at spans stand behind those that concern all of them.
-/
import ClusterWatch.LogFilter.Directive

namespace ClusterWatch

/-- A filter: the directives that concern all spans, and those that look at spans. -/
structure LogFilter where
  plain : List Directive
  spans : List Directive
deriving DecidableEq, Repr

namespace LogFilter

def ofDirectives (ds : List Directive) : LogFilter :=
  let spans := ds.filter Directive.looksAtSpans
  let plain := ds.filter (!Directive.looksAtSpans ·) ++ spans.filter Directive.concernsAll
  { plain := plain.foldl (fun l d => Directive.insert d l) []
    spans := spans.foldl (fun l d => Directive.insert d l) [] }

def read (s : String) : Except Directive.Fault LogFilter := do
  let pieces := (Text.piecesBy ',' s.toList).filter (!·.isEmpty)
  return ofDirectives (← pieces.mapM Directive.read)

def text (f : LogFilter) : String :=
  String.ofList (Text.joinWith [','] ((f.plain ++ f.spans).map fun d => (Directive.text d).toList))

/-- The filter that holds until another one is set. -/
def default : LogFilter :=
  ofDirectives
    [{ target := some "kubedeck", level := .info }, { target := some "tower_http", level := .info }]

end LogFilter
end ClusterWatch
