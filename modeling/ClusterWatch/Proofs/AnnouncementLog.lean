/-
# Eviction does not show

The log keeps one instant for an identity and forgets it when it is old.  A plain log would keep
every write.  `History` runs both beside each other: the log as it is, all that was written to it,
and the answers that it gave.

As long as clocks do not run backwards, the log has for every identity what was written last, or
has evicted it (`Faithful`), and what it has evicted no longer suppresses anything: it was older
than a window before the clock of an earlier call, and so it is older than that now.

    record   may carry any instant, so what was written last need not be the latest
    evict    keeps a record at the very edge of the window, where `announce` no longer heeds it
-/
import ClusterWatch.AnnouncementLog
import Mathlib.Data.List.Induction

namespace ClusterWatch.AnnouncementLog

inductive Call where
  | announce (id : String) (now : Instant)
  | record (id : String) (time : Instant)
  | evict (now : Instant)
deriving DecidableEq, Repr

/-- The clock of a call that looks at it. -/
def Call.clock? : Call → Option Instant
  | .announce _ now => some now
  | .record .. => none
  | .evict now => some now

def Call.isEviction : Call → Bool
  | .evict _ => true
  | _ => false

/-- The calls whose clocks do not run backwards. -/
def InOrder (calls : List Call) : Prop := (calls.filterMap Call.clock?).Pairwise (· ≤ ·)

instance (calls : List Call) : Decidable (InOrder calls) :=
  inferInstanceAs (Decidable (List.Pairwise _ _))

/-- The log, all that was written to it and the answers that it gave, the latest first. -/
structure History where
  log : AnnouncementLog
  written : List (String × Instant)
  answers : List Bool

def History.step (h : History) : Call → History
  | .announce id now =>
      let (answer, log) := h.log.announce id now
      ⟨log, if answer then (id, now) :: h.written else h.written, answer :: h.answers⟩
  | .record id time => ⟨h.log.record id time, (id, time) :: h.written, h.answers⟩
  | .evict now => ⟨(h.log.evict now).2, h.written, h.answers⟩

/-- The history of calls that begin with the empty log. -/
def history (calls : List Call) : History := calls.foldl History.step ⟨empty, [], []⟩

theorem history_snoc (calls : List Call) (c : Call) :
    history (calls ++ [c]) = (history calls).step c := by
  rw [history, List.foldl_append]
  rfl

/-- What a plain log would answer: an identity is announced unless what was written last for it is
not yet a window ago. -/
def Due (written : List (String × Instant)) (id : String) (now : Instant) : Prop :=
  written.lookup id = none ∨ ∃ last, written.lookup id = some last ∧ window ≤ now - last

theorem inOrder_append_iff {calls calls' : List Call} :
    InOrder (calls ++ calls') ↔ InOrder calls ∧ InOrder calls' ∧
      ∀ c ∈ calls, ∀ t, c.clock? = some t → ∀ c' ∈ calls', ∀ t', c'.clock? = some t' → t ≤ t' := by
  simp only [InOrder, List.filterMap_append, List.pairwise_append, List.mem_filterMap]
  constructor
  · rintro ⟨h, h', le⟩
    exact ⟨h, h', fun c hc t ht c' hc' t' ht' => le t ⟨c, hc, ht⟩ t' ⟨c', hc', ht'⟩⟩
  · rintro ⟨h, h', le⟩
    exact ⟨h, h', fun t ⟨c, hc, ht⟩ t' ⟨c', hc', ht'⟩ => le c hc t ht c' hc' t' ht'⟩

/-! ## The log is as good as a plain one -/

/-- The log has what was written last for an identity, or one of the calls has evicted it. -/
def Faithful (log : AnnouncementLog) (written : List (String × Instant)) (calls : List Call) :
    Prop :=
  ∀ id, log.records.find? id = written.lookup id ∨
    (log.records.find? id = none ∧ ∃ last now, written.lookup id = some last ∧
      Call.evict now ∈ calls ∧ window < now - last)

section Faithful

variable {log : AnnouncementLog} {written : List (String × Instant)} {calls : List Call}

theorem Faithful.snoc (h : Faithful log written calls) (c : Call) :
    Faithful log written (calls ++ [c]) := by
  intro id
  rcases h id with same | ⟨gone, last, now, wrote, evicted, old⟩
  · exact Or.inl same
  · exact Or.inr ⟨gone, last, now, wrote, List.mem_append_left [c] evicted, old⟩

theorem Faithful.record (h : Faithful log written calls) (id : String) (time : Instant) :
    Faithful (log.record id time) ((id, time) :: written) calls := by
  intro id'
  rw [AnnouncementLog.record, SortedMap.find?_insert, List.lookup_cons]
  by_cases heq : id' = id
  · subst heq
    exact Or.inl (by simp)
  · have other : (id' == id) = false := by simpa using heq
    simp only [heq, other, if_false]
    exact h id'

theorem Faithful.evict (h : Faithful log written calls) {now : Instant}
    (called : Call.evict now ∈ calls) : Faithful (log.evict now).2 written calls := by
  intro id
  show (log.records.filter _).find? id = _ ∨ (log.records.filter _).find? id = _ ∧ _
  rw [SortedMap.find?_filter]
  rcases h id with same | ⟨gone, before⟩
  · rw [same]
    cases wrote : written.lookup id with
    | none => exact Or.inl rfl
    | some last =>
        by_cases recent : now - window ≤ last
        · exact Or.inl (by simp [Option.filter, recent])
        · have old : window < now - last := by lia
          exact Or.inr ⟨by simp [Option.filter, recent], last, now, rfl, called, old⟩
  · rw [gone]
    exact Or.inr ⟨rfl, before⟩

/-- The log answers what a plain log answers, provided that no eviction came from a later clock. -/
theorem Faithful.announce_iff (h : Faithful log written calls) {id : String} {now : Instant}
    (later : ∀ now', Call.evict now' ∈ calls → now' ≤ now) :
    (log.announce id now).1 = true ↔ Due written id now := by
  have answer : (log.announce id now).1 = true ↔ log.suppresses id now = false := by
    unfold announce
    split
    · next heeded => simp [heeded]
    · next unheeded => simpa using unheeded
  rw [answer, suppresses, Due]
  rcases h id with same | ⟨gone, last, now', wrote, evicted, old⟩
  · rw [same]
    cases written.lookup id with
    | none => simp
    | some last => simp
  · -- What was evicted was a window old even then.
    have passed : window ≤ now - last := by
      have earlier := later now' evicted
      lia
    rw [gone, wrote]
    exact ⟨fun _ => Or.inr ⟨last, rfl, passed⟩, fun _ => rfl⟩

end Faithful

theorem faithful_history (calls : List Call) :
    Faithful (history calls).log (history calls).written calls := by
  induction calls using List.reverseRecOn with
  | nil => exact fun _ => Or.inl rfl
  | append_singleton calls c ih =>
      have before := ih.snoc c
      rw [history_snoc]
      cases c with
      | announce id now =>
          simp only [History.step, announce]
          split
          · exact before
          · exact before.record id now
      | record id time => exact before.record id time
      | evict now => exact before.evict (List.mem_append_right calls List.mem_cons_self)

/-- In order, each question is answered as by a plain log. -/
theorem announce_iff_due {calls : List Call} {id : String} {now : Instant}
    (h : InOrder (calls ++ [.announce id now])) :
    ((history calls).log.announce id now).1 = true ↔ Due (history calls).written id now := by
  refine (faithful_history calls).announce_iff ?_
  intro now' evicted
  obtain ⟨-, -, le⟩ := inOrder_append_iff.mp h
  exact le _ evicted now' rfl _ List.mem_cons_self now rfl

/-! ## Eviction does not show -/

theorem InOrder.filter {calls : List Call} (h : InOrder calls) (p : Call → Bool) :
    InOrder (calls.filter p) :=
  List.Pairwise.sublist (List.Sublist.filterMap _ List.filter_sublist) h

/-- What is written and answered is the same without the evictions. -/
theorem history_filter {calls : List Call} (h : InOrder calls) :
    (history (calls.filter fun c => !c.isEviction)).written = (history calls).written ∧
      (history (calls.filter fun c => !c.isEviction)).answers = (history calls).answers := by
  induction calls using List.reverseRecOn with
  | nil => exact ⟨rfl, rfl⟩
  | append_singleton calls c ih =>
      have kept := h.filter fun c => !c.isEviction
      obtain ⟨written, answers⟩ := ih (inOrder_append_iff.mp h).1
      rw [List.filter_append] at kept ⊢
      cases c with
      | evict now =>
          have gone : [Call.evict now].filter (fun c => !c.isEviction) = [] := rfl
          rw [gone, List.append_nil, history_snoc]
          exact ⟨written, answers⟩
      | record id time =>
          have stays : [Call.record id time].filter (fun c => !c.isEviction) = [.record id time] := rfl
          rw [stays, history_snoc, history_snoc]
          exact ⟨congrArg ((id, time) :: ·) written, answers⟩
      | announce id now =>
          have stays :
              [Call.announce id now].filter (fun c => !c.isEviction) = [.announce id now] := rfl
          rw [stays] at kept ⊢
          have due := announce_iff_due kept
          rw [written, ← announce_iff_due h] at due
          have same := Bool.eq_iff_iff.mpr due
          rw [history_snoc, history_snoc]
          simp only [History.step]
          rw [same, written, answers]
          exact ⟨rfl, rfl⟩

/-! ## Two announcements of one identity -/

theorem le_written_of_announced {id : String} {now : Instant} {calls more : List Call}
    (h : InOrder (calls ++ .announce id now :: more)) (hnone : ∀ time, Call.record id time ∉ more)
    (announced : ((history calls).log.announce id now).1 = true) :
    ∃ last, (history (calls ++ .announce id now :: more)).written.lookup id = some last ∧
      now ≤ last := by
  induction more using List.reverseRecOn with
  | nil =>
      refine ⟨now, ?_, Int.le_refl now⟩
      rw [history_snoc]
      simp [History.step, announced]
  | append_singleton more c ih =>
      have split : calls ++ Call.announce id now :: (more ++ [c]) =
          (calls ++ .announce id now :: more) ++ [c] := by simp
      rw [split] at h ⊢
      obtain ⟨order, -, le⟩ := inOrder_append_iff.mp h
      have fewer : ∀ time, Call.record id time ∉ more :=
        fun time mem => hnone time (List.mem_append_left [c] mem)
      obtain ⟨last, wrote, since⟩ := ih order fewer
      rw [history_snoc]
      cases c with
      | evict now' => exact ⟨last, wrote, since⟩
      | record id' time =>
          have other : (id == id') = false := by
            apply beq_false_of_ne
            rintro rfl
            exact hnone time (List.mem_append_right more List.mem_cons_self)
          exact ⟨last, by simpa [History.step, List.lookup_cons, other] using wrote, since⟩
      | announce id' now' =>
          have later : now ≤ now' :=
            le (.announce id now) (List.mem_append_right calls List.mem_cons_self) now rfl _
              List.mem_cons_self now' rfl
          simp only [History.step]
          split
          · by_cases heq : id = id'
            · exact ⟨now', by simp [heq], later⟩
            · have other : (id == id') = false := beq_false_of_ne heq
              exact ⟨last, by simpa [List.lookup_cons, other] using wrote, since⟩
          · exact ⟨last, wrote, since⟩

/-! ## The log refines a plain one -/

/-- Of calls whose clocks do not run backwards:

* Each question is answered as by a plain log of all that was written before.
* The answers are those of any other such calls that differ by evictions alone.
* Two announcements of one identity are a window apart unless it was recorded in between. -/
theorem refines_plain_log {calls : List Call} (h : InOrder calls) :
    (∀ before id now after, calls = before ++ .announce id now :: after →
      (((history before).log.announce id now).1 = true ↔ Due (history before).written id now)) ∧
      (∀ calls', InOrder calls' →
        (calls'.filter fun c => !c.isEviction) = (calls.filter fun c => !c.isEviction) →
          (history calls').answers = (history calls).answers) ∧
      ∀ before id now between now' after,
        calls = before ++ .announce id now :: (between ++ .announce id now' :: after) →
          (∀ time, Call.record id time ∉ between) →
            ((history before).log.announce id now).1 = true →
              ((history (before ++ .announce id now :: between)).log.announce id now').1 = true →
                window ≤ now' - now := by
  have prefixed {before : List Call} {c : Call} (after : List Call)
      (split : calls = before ++ c :: after) : InOrder (before ++ [c]) := by
    rw [split, ← List.singleton_append, ← List.append_assoc] at h
    exact (inOrder_append_iff.mp h).1
  refine ⟨?_, ?_, ?_⟩
  · intro before id now after split
    exact announce_iff_due (prefixed after split)
  · intro calls' h' same
    rw [← (history_filter h').2, same, (history_filter h).2]
  · intro before id now between now' after split hnone announced again
    have order : InOrder ((before ++ .announce id now :: between) ++ [.announce id now']) :=
      prefixed after (by rw [split]; simp)
    obtain ⟨last, wrote, since⟩ :=
      le_written_of_announced (inOrder_append_iff.mp order).1 hnone announced
    rcases (announce_iff_due order).mp again with never | ⟨last', wrote', passed⟩
    · rw [wrote] at never
      cases never
    · cases wrote.symm.trans wrote'
      lia

/-- At the very edge of the window a record is still kept, and no longer heeded. -/
theorem refines_plain_log_at_edge :
    InOrder [.announce "web/api" 0, .evict window, .announce "web/api" window] ∧
      Due (history [.announce "web/api" 0, .evict window]).written "web/api" window ∧
      (history [.announce "web/api" 0, .announce "web/api" window]).answers =
        (history [.announce "web/api" 0, .evict window, .announce "web/api" window]).answers ∧
      window ≤ window - 0 := by
  have order : InOrder [.announce "web/api" 0, .evict window, .announce "web/api" window] := by
    decide
  obtain ⟨due, same, apart⟩ := refines_plain_log order
  refine ⟨order, ?_, ?_, ?_⟩
  · exact (due [.announce "web/api" 0, .evict window] "web/api" window [] rfl).mp (by decide)
  · exact same [.announce "web/api" 0, .announce "web/api" window] (by decide) rfl
  · exact apart [] "web/api" 0 [.evict window] window [] rfl (by simp) (by decide) (by decide)

end ClusterWatch.AnnouncementLog
