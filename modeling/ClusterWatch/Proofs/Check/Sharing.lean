/-
# Checks that share a log

Several checks may be made at a time: the scheduler's and those that clients ask for.  They share
the log of announcements, and each asks it about one workload after the other.  The log answers one
question at a time, but the questions of different checks come in any order, and each carries the
time at which its check has looked at the clock, so times may run backwards too.

`Sharing.Step` is one question, or one sweep of the log, and says which time it carries.  A check
whose questions are not interrupted comes to what `Check.announce` comes to (`leads_announce`).

An identity without a young record is either not asked about yet, and then its record is still old,
or one check has been told to announce it, and then its record is from one of these times
(`Sharing.Single`).  Times that are less than a window apart never lead back.
-/
import ClusterWatch.Proofs.Check.News

namespace ClusterWatch.Check

open Recommendation (sift)

/-- A check on its way through its recommendation: the workloads that it has still to ask about, and
those that it has been told to announce. -/
structure Pass where
  waiting : List (String × FlaggedWorkload)
  kept : List (String × FlaggedWorkload)

/-- Checks that share a log. -/
structure Sharing where
  log : AnnouncementLog
  passes : List Pass

namespace Sharing

/-- Checks that have got their recommendations and not asked yet. -/
def start (log : AnnouncementLog) (rs : List Recommendation) : Sharing :=
  ⟨log, rs.map fun r => ⟨r.flagged, []⟩⟩

/-- `Step s now s'`: a check asks about its next workload with the time `now`, or the log is swept
at that time. -/
inductive Step : Sharing → Instant → Sharing → Prop
  | ask (log : AnnouncementLog) (l : List Pass) (x : String × FlaggedWorkload)
      (waiting kept : List (String × FlaggedWorkload)) (r : List Pass) (now : Instant) :
      Step ⟨log, l ++ ⟨x :: waiting, kept⟩ :: r⟩ now
        ⟨(log.announce (identityOf x) now).2,
          l ++ ⟨waiting, if (log.announce (identityOf x) now).1 then kept ++ [x] else kept⟩ :: r⟩
  | sweep (log : AnnouncementLog) (passes : List Pass) (now : Instant) :
      Step ⟨log, passes⟩ now ⟨(log.evict now).2, passes⟩

/-- Steps with the given times, one after the other. -/
inductive Leads : Sharing → List Instant → Sharing → Prop
  | done (s : Sharing) : Leads s [] s
  | step {s t u : Sharing} {now : Instant} {times : List Instant} :
      Step s now t → Leads t times u → Leads s (now :: times) u

/-- How often a check has been told to announce an identity. -/
def announced (s : Sharing) (id : String) : Nat :=
  (s.passes.flatMap Pass.kept).countP fun x => identityOf x = id

/-- How often an identity has still to be asked about. -/
def pending (s : Sharing) (id : String) : Nat :=
  (s.passes.flatMap Pass.waiting).countP fun x => identityOf x = id

def IsThrough (s : Sharing) : Prop := ∀ p ∈ s.passes, p.waiting = []

/-! ## A check that is not interrupted -/

theorem sift_asking_cons (now : Instant) (log : AnnouncementLog) (x : String × FlaggedWorkload)
    (l : List (String × FlaggedWorkload)) :
    sift (asking now) log (x :: l) =
      (if (log.announce (identityOf x) now).1 then
          x :: (sift (asking now) (log.announce (identityOf x) now).2 l).1
        else (sift (asking now) (log.announce (identityOf x) now).2 l).1,
        (sift (asking now) (log.announce (identityOf x) now).2 l).2) :=
  rfl

theorem leads_sift (l r : List Pass) (now : Instant) (log : AnnouncementLog)
    (waiting kept : List (String × FlaggedWorkload)) :
    Leads ⟨log, l ++ ⟨waiting, kept⟩ :: r⟩ (List.replicate waiting.length now)
      ⟨(sift (asking now) log waiting).2,
        l ++ ⟨[], kept ++ (sift (asking now) log waiting).1⟩ :: r⟩ := by
  induction waiting generalizing log kept with
  | nil =>
      simp only [sift, List.append_nil]
      exact .done _
  | cons x waiting ih =>
      have first := Step.ask log l x waiting kept r now
      have rest := ih (log.announce (identityOf x) now).2
        (if (log.announce (identityOf x) now).1 then kept ++ [x] else kept)
      have whole : kept ++ (sift (asking now) log (x :: waiting)).1 =
          (if (log.announce (identityOf x) now).1 then kept ++ [x] else kept) ++
            (sift (asking now) (log.announce (identityOf x) now).2 waiting).1 := by
        rw [sift_asking_cons]
        cases (log.announce (identityOf x) now).1 <;> simp
      rw [whole]
      exact .step first rest

theorem leads_announce {c : Context} (on : c.deduplicate = true) (r : Recommendation)
    (before after : List Pass) :
    Leads ⟨c.log, before ++ ⟨r.flagged, []⟩ :: after⟩ (List.replicate r.flagged.length c.clock)
      ⟨(announce c r).2, before ++ ⟨[], (announce c r).1.flagged⟩ :: after⟩ := by
  have whole := leads_sift before after c.clock c.log r.flagged []
  rw [log_announce on, flagged_announce on, ← sift_eq_news]
  exact whole

/-! ## One step -/

section Step

variable {s s' : Sharing} {now : Instant} {times : List Instant} {id : String}

/-- What a step does to an identity: nobody asks about it, and its record stays or is swept away;
or a check asks about it and is told to announce it unless it is suppressed. -/
theorem Step.cases (h : Step s now s') (id : String) :
    (s'.announced id = s.announced id ∧ s'.pending id = s.pending id ∧
        (s'.log.records.find? id = s.log.records.find? id ∨
          s'.log.records.find? id =
            (s.log.records.find? id).filter fun last => now - AnnouncementLog.window ≤ last)) ∨
      (s.pending id = s'.pending id + 1 ∧ s.log.suppresses id now = true ∧
        s'.announced id = s.announced id ∧
        s'.log.records.find? id = s.log.records.find? id) ∨
      (s.pending id = s'.pending id + 1 ∧ s.log.suppresses id now = false ∧
        s'.announced id = s.announced id + 1 ∧ s'.log.records.find? id = some now) := by
  cases h with
  | sweep log passes => exact Or.inl ⟨rfl, rfl, Or.inr (SortedMap.find?_filter _ _ _)⟩
  | ask log l x waiting kept r =>
      have record := log.find?_announce (identityOf x) id now
      have answer := log.announce_fst (identityOf x) now
      by_cases same : identityOf x = id
      · subst same
        cases heeded : log.suppresses (identityOf x) now with
        | true =>
            rw [heeded] at answer
            refine Or.inr (Or.inl ⟨?_, rfl, ?_, ?_⟩)
            · simp [pending]; omega
            · simp [announced, answer]
            · simpa [answer] using record
        | false =>
            rw [heeded] at answer
            refine Or.inr (Or.inr ⟨?_, rfl, ?_, ?_⟩)
            · simp [pending]; omega
            · simp [announced, answer]; omega
            · simpa [answer] using record
      · refine Or.inl ⟨?_, ?_, Or.inl ?_⟩
        · simp only [announced]
          split <;> simp [same]
        · simp [pending, same]
        · simpa [Ne.symm same] using record

theorem Step.of_recent {last : Instant} (h : Step s now s')
    (found : s.log.records.find? id = some last) (recent : now - last < AnnouncementLog.window) :
    s'.announced id = s.announced id ∧ s'.log.records.find? id = some last := by
  rcases h.cases id with ⟨announced, -, record⟩ | ⟨-, -, announced, same⟩ | ⟨-, unheeded, -, -⟩
  · refine ⟨announced, ?_⟩
    rcases record with same | swept
    · exact same.trans found
    · rw [swept, found]
      have kept : now - AnnouncementLog.window ≤ last := by lia
      simp [Option.filter, kept]
  · exact ⟨announced, same.trans found⟩
  · have heeded := AnnouncementLog.suppresses_iff.mpr ⟨last, found, recent⟩
    rw [unheeded] at heeded
    cases heeded

/-- Where an identity stands whose record, if there was one, is a window old: it has still to be
asked about as often as in the beginning, `n` times, and its record is the old one if any; or one
check has been told to announce it, and the record has one of the times. -/
def Single (n : Nat) (times : List Instant) (id : String) (s : Sharing) : Prop :=
  (s.announced id = 0 ∧ s.pending id = n ∧
      ∀ last, s.log.records.find? id = some last → ∀ t ∈ times, AnnouncementLog.window ≤ t - last) ∨
    (s.announced id = 1 ∧ ∃ last ∈ times, s.log.records.find? id = some last)

theorem Step.single {n : Nat} (h : Step s now s') (mem : now ∈ times)
    (close : ∀ t ∈ times, ∀ t' ∈ times, t - t' < AnnouncementLog.window)
    (hs : Single n times id s) : Single n times id s' := by
  rcases hs with ⟨hnone, all, old⟩ | ⟨one, last, young, found⟩
  · rcases h.cases id with ⟨announced, pending, record⟩ | ⟨-, heeded, -, -⟩ | ⟨-, -, announced, found⟩
    · refine Or.inl ⟨announced.trans hnone, pending.trans all, ?_⟩
      intro last found
      rcases record with same | swept
      · exact old last (same ▸ found)
      · rw [swept] at found
        exact old last (Option.filter_eq_some_iff.mp found).1
    · -- An old record suppresses nothing.
      obtain ⟨last, found, recent⟩ := AnnouncementLog.suppresses_iff.mp heeded
      have passed := old last found now mem
      lia
    · exact Or.inr ⟨by rw [announced, hnone], now, mem, found⟩
  · obtain ⟨announced, stays⟩ := h.of_recent found (close now mem last young)
    exact Or.inr ⟨announced.trans one, last, young, stays⟩

end Step

/-! ## Whole runs -/

/-- What every step keeps that carries one of some times holds after steps with these times. -/
theorem Leads.induction {P : Sharing → Prop} {all times : List Instant} {s s' : Sharing}
    (h : Leads s times s') (among : ∀ t ∈ times, t ∈ all)
    (step : ∀ s now s', now ∈ all → Step s now s' → P s → P s') (start : P s) : P s' := by
  induction h with
  | done => exact start
  | step first _ ih =>
      have next := step _ _ _ (among _ List.mem_cons_self) first start
      exact ih (fun t mem => among t (List.mem_cons_of_mem _ mem)) next

theorem announced_start (log : AnnouncementLog) (rs : List Recommendation) (id : String) :
    (start log rs).announced id = 0 := by
  have hnone : (start log rs).passes.flatMap Pass.kept = [] := by simp [start]
  rw [announced, hnone]
  rfl

theorem pending_start_pos {log : AnnouncementLog} {rs : List Recommendation} {id : String}
    (flagged : ∃ r ∈ rs, ∃ x ∈ r.flagged, identityOf x = id) : 0 < (start log rs).pending id := by
  obtain ⟨r, hr, x, hx, rfl⟩ := flagged
  rw [pending, List.countP_pos_iff]
  exact ⟨x, by simpa [start] using ⟨r, hr, hx⟩, by simp⟩

theorem IsThrough.pending_eq {s : Sharing} (h : s.IsThrough) (id : String) : s.pending id = 0 := by
  have hnone : s.passes.flatMap Pass.waiting = [] := List.flatMap_eq_nil_iff.mpr h
  rw [pending, hnone]
  rfl

/-- Of any number of checks that share a log, whatever the order of their questions, if the times
that they carry are all less than a window apart:

* An identity without a record, or with one that is a window old at all times, is announced by one
  check at most, and once, if any of them has flagged it and all are through.
* An identity with a record that is younger than a window at all times is announced by none. -/
theorem announced_exactly_once {log : AnnouncementLog} {rs : List Recommendation}
    {times : List Instant} {s : Sharing} (run : (start log rs).Leads times s)
    (close : ∀ t ∈ times, ∀ t' ∈ times, t - t' < AnnouncementLog.window) (id : String) :
    ((∀ last, log.records.find? id = some last → ∀ t ∈ times, AnnouncementLog.window ≤ t - last) →
      s.announced id ≤ 1 ∧
        (s.IsThrough → (∃ r ∈ rs, ∃ x ∈ r.flagged, identityOf x = id) → s.announced id = 1)) ∧
    ∀ last, log.records.find? id = some last → (∀ t ∈ times, t - last < AnnouncementLog.window) →
      s.announced id = 0 := by
  constructor
  · intro old
    have single : Single ((start log rs).pending id) times id s :=
      run.induction (fun _ mem => mem) (fun _ _ _ mem step => step.single mem close)
        (Or.inl ⟨announced_start log rs id, rfl, old⟩)
    rcases single with ⟨hnone, all, -⟩ | ⟨one, -⟩
    · refine ⟨by omega, ?_⟩
      intro through flagged
      have hsome : 0 < (start log rs).pending id := pending_start_pos flagged
      rw [← all, through.pending_eq] at hsome
      cases hsome
    · exact ⟨Nat.le_of_eq one, fun _ _ => one⟩
  · intro last found recent
    have withheld := run.induction (P := fun s => s.announced id = 0 ∧
        s.log.records.find? id = some last) (fun _ mem => mem) ?_ ⟨announced_start log rs id, found⟩
    · exact withheld.1
    rintro s now s' mem step ⟨hnone, found⟩
    obtain ⟨announced, stays⟩ := step.of_recent found (recent now mem)
    exact ⟨announced.trans hnone, stays⟩

/-- Two checks that flag the same workloads, in orders of their own. -/
def crossing : List Recommendation :=
  [{ namespaces := .ofList [("web", [{ name := "api" }, { name := "worker" }])] },
   { namespaces := .ofList [("web", [{ name := "worker" }, { name := "api" }])] }]

/-- By turns, and on a clock that runs backwards, the two checks announce each workload once. -/
theorem crossing_announces_each_once :
    ∃ s, (start .empty crossing).Leads [5, 3, 4, 0] s ∧ s.IsThrough ∧
      s.announced "web/api" = 1 ∧ s.announced "web/worker" = 1 := by
  obtain ⟨s, run, through⟩ :
      ∃ s, (start .empty crossing).Leads [5, 3, 4, 0] s ∧ s.IsThrough := by
    refine ⟨_, .step (.ask .empty [] ("web", { name := "api" }) [("web", { name := "worker" })] []
      [⟨[("web", { name := "worker" }), ("web", { name := "api" })], []⟩] 5)
      (.step (.ask _ [_] ("web", { name := "worker" }) [("web", { name := "api" })] [] [] 3)
        (.step (.ask _ [] ("web", { name := "worker" }) [] _ [_] 4)
          (.step (.ask _ [_] ("web", { name := "api" }) [] _ [] 0) (.done _)))), ?_⟩
    simp [IsThrough]
  have once := announced_exactly_once run (by decide)
  have fresh (id : String) : ∀ last, AnnouncementLog.empty.records.find? id = some last →
      ∀ t ∈ [5, 3, 4, 0], AnnouncementLog.window ≤ t - last := nofun
  refine ⟨s, run, through, ?_, ?_⟩
  · exact ((once "web/api").1 (fresh _)).2 through (by decide)
  · exact ((once "web/worker").1 (fresh _)).2 through (by decide)

end Sharing
end ClusterWatch.Check
