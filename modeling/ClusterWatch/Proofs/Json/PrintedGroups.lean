/-
# Printed arrays and objects read back

A list reads back if its items do, a map if its values do, and a record if each of its members reads
back the value that is printed for it (`Fills`).  A member whose value is missing has no field; it
is left as the record had it.

Each reader spends one unit of its fuel on an element.  It is given as many units as there are
characters, and no element is without any.
-/
import ClusterWatch.Proofs.Json.Printing

namespace ClusterWatch.Json

variable {α : Type} {read : Reader α} {v : α}

/-! ## Elements between brackets -/

/-- Texts of elements, the first of them in front of its bracket or any later ones. -/
def separated : Bool → List (List Char) → List Char
  | true, texts => joinWithCommas texts
  | false, texts => texts.flatMap fun text => ',' :: text

theorem joinWithCommas_cons (text : List Char) (more : List (List Char)) :
    joinWithCommas (text :: more) = text ++ separated false more := by
  induction more generalizing text with
  | nil => simp [joinWithCommas, separated]
  | cons next more ih => simp [joinWithCommas, ih, separated]

variable {closing : Char} {texts : List (List Char)}

theorem ends_separated (mark : isMark closing = true) (texts : List (List Char)) (r : List Char) :
    Ends (separated false texts ++ closing :: r) := by
  cases texts with
  | nil => exact ends_cons mark
  | cons text texts => exact ends_cons (by decide)

theorem next_nil {first : Bool} (space : isSpace closing = false) (r : List Char) :
    next closing first (separated first [] ++ closing :: r) = .ok (.close r) := by
  have front : separated first [] = [] := by cases first <;> rfl
  simp [next, front, skipSpace, space]

theorem next_cons {first : Bool} (closes : closing ∈ [']', '}']) {text : List Char}
    (leads : Leads text) (r : List Char) : next closing first (separated first (text :: texts) ++ r) =
      .ok (.element (text ++ (separated false texts ++ r))) := by
  obtain ⟨c, tail, rfl, lead⟩ := leads
  obtain ⟨space, others⟩ := ne_of_isLead lead
  have no : c ≠ closing := by
    rintro rfl
    simp only [List.mem_cons, List.not_mem_nil, or_false, not_or] at closes others
    rcases closes with rfl | rfl
    · exact others.2.2.1 rfl
    · exact others.2.2.2 rfl
  have comma : ',' ≠ closing := by
    rintro rfl
    exact absurd closes (by decide)
  cases first with
  | true =>
      rw [separated, joinWithCommas_cons]
      simp [next, skipSpace, space, no]
  | false =>
      have blank : isSpace ',' = false := by decide
      simp [next, separated, skipSpace, space, no, blank, comma]

theorem length_le_separated (first : Bool) (leads : ∀ text ∈ texts, Leads text) :
    texts.length ≤ (separated first texts).length := by
  have later : ∀ texts : List (List Char), texts.length ≤ (separated false texts).length := by
    intro texts
    induction texts with
    | nil => exact Nat.le_refl 0
    | cons text texts ih =>
        simp only [separated, List.flatMap_cons, List.length_append, List.length_cons] at ih ⊢
        omega
  cases first with
  | false => exact later texts
  | true =>
      cases texts with
      | nil => exact Nat.le_refl 0
      | cons text texts =>
          have one := (leads text List.mem_cons_self).length_pos
          have more := later texts
          rw [separated, joinWithCommas_cons]
          simp only [List.length_append, List.length_cons]
          omega

/-! ## Lists -/

theorem renderItems_eq (items : List Json) :
    renderItems Quoted.escape items = items.map (render Quoted.escape) := by
  induction items with
  | nil => rfl
  | cons item items ih => rw [renderItems, ih, List.map_cons]

theorem readItems_separated {γ : Type} {items : List γ} (print : γ → List Char) (value : γ → α)
    (each : ∀ item ∈ items, ReadsBack read (print item) (value item)) (first : Bool) {fuel : Nat}
    (enough : items.length < fuel) (r : List Char) :
    readItems read fuel first (separated first (items.map print) ++ ']' :: r) =
      .ok (items.map value, r) := by
  induction items generalizing fuel first with
  | nil =>
      cases fuel with
      | zero => cases enough
      | succ fuel =>
          rw [List.map_nil, readItems, next_nil (by decide)]
          rfl
  | cons item items ih =>
      cases fuel with
      | zero => cases enough
      | succ fuel =>
          have one := each item List.mem_cons_self
          have more := ih (fun item mem => each item (List.mem_cons_of_mem _ mem)) false
            (Nat.lt_of_succ_lt_succ enough)
          have mark : isMark ']' = true := by decide
          have answer := one.answer (ends_separated mark (items.map print) r)
          rw [List.map_cons, readItems, next_cons (by decide) one.leads]
          simp only [bind, Except.bind, answer, more]
          rfl

theorem readsBack_list {γ : Type} {items : List γ} {json : γ → Json} {value : γ → α}
    (each : ∀ item ∈ items, ReadsBack read (render Quoted.escape (json item)) (value item)) :
    ReadsBack (readList read) (render Quoted.escape (Json.list json items)) (items.map value) := by
  have printed : render Quoted.escape (Json.list json items) = '[' ::
      (separated true (items.map fun item => render Quoted.escape (json item)) ++ [']']) := by
    simp [Json.list, render, renderItems_eq, separated, Function.comp_def]
  refine ⟨⟨'[', _, printed, by decide⟩, ?_⟩
  intro r _
  have leads : ∀ text ∈ items.map fun item => render Quoted.escape (json item), Leads text := by
    intro text mem
    obtain ⟨item, isItem, rfl⟩ := List.mem_map.mp mem
    exact (each item isItem).leads
  have long := length_le_separated true leads
  rw [printed, List.cons_append, List.append_assoc]
  refine readItems_separated _ value each true ?_ r
  simp only [List.length_map, List.length_append] at long ⊢
  omega

/-! ## Maps -/

def fieldText (name : String) (text : List Char) : List Char :=
  Quoted.encode Quoted.escape name ++ ':' :: text

theorem leads_fieldText (name : String) (text : List Char) : Leads (fieldText name text) :=
  ⟨'"', _, rfl, by decide⟩

theorem renderFields_eq (fields : List (String × Json)) :
    renderFields Quoted.escape fields =
      fields.map fun f => fieldText f.1 (render Quoted.escape f.2) := by
  induction fields with
  | nil => rfl
  | cons f fields ih => rw [renderFields, ih, List.map_cons, fieldText]

theorem readName_fieldText (name : String) (text r : List Char) :
    readName (fieldText name text ++ r) = .ok (name, ':' :: (text ++ r)) := by
  rw [fieldText, List.append_assoc, encode_append]
  exact Quoted.decode_escape name _

theorem skipColon_cons (cs : List Char) : skipColon (':' :: cs) = .ok cs := rfl

theorem readEntries_separated {γ : Type} {entries : List (String × γ)} (print : γ → List Char)
    (value : γ → α) (each : ∀ e ∈ entries, ReadsBack read (print e.2) (value e.2)) (first : Bool)
    {fuel : Nat} (enough : entries.length < fuel) (r : List Char) :
    readEntries read fuel first
        (separated first (entries.map fun e => fieldText e.1 (print e.2)) ++ '}' :: r) =
      .ok (entries.map fun e => (e.1, value e.2), r) := by
  induction entries generalizing fuel first with
  | nil =>
      cases fuel with
      | zero => cases enough
      | succ fuel =>
          rw [List.map_nil, readEntries, next_nil (by decide)]
          rfl
  | cons e entries ih =>
      cases fuel with
      | zero => cases enough
      | succ fuel =>
          have one := each e List.mem_cons_self
          have more := ih (fun e mem => each e (List.mem_cons_of_mem _ mem)) false
            (Nat.lt_of_succ_lt_succ enough)
          have mark : isMark '}' = true := by decide
          have answer := one.answer
            (ends_separated mark (entries.map fun e => fieldText e.1 (print e.2)) r)
          rw [List.map_cons, readEntries, next_cons (by decide) (leads_fieldText _ _)]
          simp only [bind, Except.bind, readName_fieldText, skipColon_cons, answer, more]
          rfl

theorem foldl_insert (l : List (String × α)) (m : SortedMap α)
    (above : ((m.entries ++ l).map Prod.fst).Pairwise (· < ·)) :
    (l.foldl (fun m e => m.insert e.1 e.2) m).entries = m.entries ++ l := by
  induction l generalizing m with
  | nil => simp
  | cons e l ih =>
      obtain ⟨k, v⟩ := e
      have below : ∀ j ∈ m.entries.map Prod.fst, j < k := by
        intro j mem
        rw [List.map_append, List.pairwise_append] at above
        exact above.2.2 j mem k (by simp)
      have inserted : (m.insert k v).entries = m.entries ++ [(k, v)] :=
        SortedMap.upsertEntries_above k _ m.entries below
      have same : m.entries ++ (k, v) :: l = (m.insert k v).entries ++ l := by simp [inserted]
      rw [List.foldl_cons, same]
      exact ih _ (by rwa [← same])

theorem ofList_entries (m : SortedMap α) : SortedMap.ofList m.entries = m :=
  SortedMap.ext (foldl_insert m.entries .empty m.ascending)

theorem printed_object (fields : List (String × Json)) (r : List Char) :
    render Quoted.escape (.object fields) ++ r =
      '{' :: (separated true (fields.map fun f => fieldText f.1 (render Quoted.escape f.2)) ++
        '}' :: r) := by
  simp [render, renderFields_eq, separated]

theorem length_lt_object (fields : List (String × Json)) (r : List Char) :
    fields.length <
      (separated true (fields.map fun f => fieldText f.1 (render Quoted.escape f.2)) ++
        '}' :: r).length + 1 := by
  have leads : ∀ text ∈ fields.map fun f => fieldText f.1 (render Quoted.escape f.2),
      Leads text := by
    intro text mem
    obtain ⟨f, -, rfl⟩ := List.mem_map.mp mem
    exact leads_fieldText _ _
  have long := length_le_separated true leads
  simp only [List.length_map, List.length_append] at long ⊢
  omega

theorem readsBack_map {γ : Type} {m : SortedMap γ} {json : γ → Json} {value : γ → α}
    (each : ∀ e ∈ m.entries, ReadsBack read (render Quoted.escape (json e.2)) (value e.2)) :
    ReadsBack (readMap read) (render Quoted.escape (.object (m.mapValues json).entries))
      (m.mapValues value) := by
  refine ⟨⟨'{', _, rfl, by decide⟩, ?_⟩
  intro r _
  have same : (m.mapValues json).entries = m.entries.map fun e => (e.1, json e.2) := rfl
  have enough := length_lt_object (m.mapValues json).entries r
  rw [printed_object]
  rw [same] at enough ⊢
  simp only [List.map_map, Function.comp_def, List.length_map] at enough ⊢
  have answer := readEntries_separated (fun v => render Quoted.escape (json v)) value each true
    enough r
  have sorted : SortedMap.ofList (m.entries.map fun e => (e.1, value e.2)) = m.mapValues value :=
    ofList_entries (m.mapValues value)
  calc readMap read ('{' :: (separated true _ ++ '}' :: r))
      = (readEntries read _ true _).bind fun p => .ok (SortedMap.ofList p.1, p.2) := rfl
    _ = .ok (m.mapValues value, r) := by
        rw [answer, ← sorted]
        rfl

/-! ## Records -/

variable {σ : Type} {members : List (Member σ)}

/-- The fields that are printed for the members of a record, in the order of the members: a field
for each member whose value is there.  A member that must be there has one.  What is read back for
them changes the record from `record` to `result`. -/
inductive Fills : List (Member σ) → σ → List (String × Option Json) → σ → Prop
  | nil {record : σ} : Fills [] record [] record
  | absent {m : Member σ} {more : List (Member σ)} {record result : σ}
      {fields : List (String × Option Json)} (optional : m.required = false)
      (rest : Fills more record fields result) :
      Fills (m :: more) record ((m.name, none) :: fields) result
  | present {m : Member σ} {more : List (Member σ)} {record result : σ} {set : σ → σ} {value : Json}
      {fields : List (String × Option Json)}
      (reads : ReadsBack m.read (render Quoted.escape value) set)
      (rest : Fills more (set record) fields result) :
      Fills (m :: more) record ((m.name, some value) :: fields) result

theorem Fills.member {set : α → σ → σ} {name : String} {aliases : List String} {required : Bool}
    {more : List (Member σ)} {record result : σ} {value : Json}
    {fields : List (String × Option Json)} (reads : ReadsBack read (render Quoted.escape value) v)
    (rest : Fills more (set v record) fields result) :
    Fills (⟨name, aliases, required, read.map set⟩ :: more) record ((name, some value) :: fields)
      result :=
  .present (m := ⟨name, aliases, required, read.map set⟩) (reads.map set) rest

/-- The fields that have a value. -/
def present (fields : List (String × Option Json)) : List (String × Json) :=
  fields.filterMap fun (name, value) => value.map fun v => (name, v)

/-- The names in `seen` are those of members in front of the ones in `more`.  Whatever must be there
has been seen or is still to come. -/
structure Pending (members more : List (Member σ)) (seen : List String) : Prop where
  part : ∀ m ∈ more, m ∈ members
  distinct : (more.map Member.name).Nodup
  new : ∀ m ∈ more, m.name ∉ seen
  needed : ∀ m ∈ members, m.required = true → m.name ∈ seen ∨ m ∈ more

namespace Pending

variable {m : Member σ} {more : List (Member σ)} {seen : List String}

theorem leave (h : Pending members (m :: more) seen) (optional : m.required = false) :
    Pending members more seen where
  part := fun m mem => h.part m (List.mem_cons_of_mem _ mem)
  distinct := (List.nodup_cons.mp h.distinct).2
  new := fun m mem => h.new m (List.mem_cons_of_mem _ mem)
  needed := by
    intro m' mem required
    rcases h.needed m' mem required with before | here
    · exact Or.inl before
    · rcases List.mem_cons.mp here with rfl | later
      · rw [optional] at required
        cases required
      · exact Or.inr later

theorem take (h : Pending members (m :: more) seen) : Pending members more (m.name :: seen) where
  part := fun m mem => h.part m (List.mem_cons_of_mem _ mem)
  distinct := (List.nodup_cons.mp h.distinct).2
  new := by
    intro m' mem again
    rcases List.mem_cons.mp again with same | before
    · exact (List.nodup_cons.mp h.distinct).1 (same ▸ List.mem_map_of_mem mem)
    · exact h.new m' (List.mem_cons_of_mem _ mem) before
  needed := by
    intro m' mem required
    rcases h.needed m' mem required with before | here
    · exact Or.inl (List.mem_cons_of_mem _ before)
    · rcases List.mem_cons.mp here with rfl | later
      · exact Or.inl List.mem_cons_self
      · exact Or.inr later

theorem complete (h : Pending members [] seen) :
    (members.all fun m => !m.required || seen.contains m.name) = true := by
  rw [List.all_eq_true]
  intro m mem
  cases required : m.required with
  | false => rfl
  | true => simpa using h.needed m mem required

end Pending

theorem readFields_fills (own : ∀ m ∈ members, members.find? (·.answersTo m.name) = some m)
    {more : List (Member σ)} {record result : σ} {fields : List (String × Option Json)}
    (fills : Fills more record fields result) {seen : List String}
    (pending : Pending members more seen) (first : Bool) {fuel : Nat}
    (enough : (present fields).length < fuel) (r : List Char) :
    readFields members fuel first seen record
        (separated first ((present fields).map fun f =>
          fieldText f.1 (render Quoted.escape f.2)) ++ '}' :: r) = .ok (result, r) := by
  induction fills generalizing first seen fuel with
  | nil =>
      cases fuel with
      | zero => cases enough
      | succ fuel =>
          have space : isSpace '}' = false := by decide
          rw [readFields]
          simp only [present, List.filterMap_nil, List.map_nil, next_nil space, bind, Except.bind,
            pending.complete, if_true]
  | absent optional rest ih => exact ih (pending.leave optional) first enough
  | @present m more record result set value fields reads rest ih =>
      cases fuel with
      | zero => cases enough
      | succ fuel =>
          have unseen : seen.contains m.name = false := by
            simpa using pending.new m List.mem_cons_self
          have found := own m (pending.part m List.mem_cons_self)
          have mark : isMark '}' = true := by decide
          have answer := reads.answer (ends_separated mark
            ((present fields).map fun f => fieldText f.1 (render Quoted.escape f.2)) r)
          have rest := ih pending.take false (Nat.lt_of_succ_lt_succ enough)
          have front : present ((m.name, some value) :: fields) =
              (m.name, value) :: present fields := rfl
          rw [front, List.map_cons, readFields, next_cons (by decide) (leads_fieldText _ _)]
          simp only [bind, Except.bind, readName_fieldText, skipColon_cons, found, unseen, answer,
            rest, Bool.false_eq_true, if_false]

/-- A printed record reads back as what its fields fill. -/
theorem readsBack_record (own : ∀ m ∈ members, members.find? (·.answersTo m.name) = some m)
    (distinct : (members.map Member.name).Nodup) {default result : σ}
    {fields : List (String × Option Json)} (fills : Fills members default fields result) :
    ReadsBack (readRecord members default) (render Quoted.escape (.record fields)) result := by
  refine ⟨⟨'{', _, rfl, by decide⟩, ?_⟩
  intro r _
  have pending : Pending members members [] :=
    ⟨fun _ mem => mem, distinct, fun _ _ => List.not_mem_nil, fun _ mem _ => Or.inr mem⟩
  have enough := length_lt_object (present fields) r
  have answer := readFields_fills own fills pending true enough r
  rw [Json.record, printed_object]
  exact answer

/-! ## Whole texts -/

/-- A printed value alone reads back. -/
theorem ofText_toText {j : Json} (h : ReadsBack read (render Quoted.escape j) v) :
    ofText read j.toText = .ok v := by
  have answer := h.answer (r := []) nofun
  rw [List.append_nil] at answer
  simp only [ofText, toText, String.toList_ofList, readAll, answer]
  rfl

end ClusterWatch.Json
