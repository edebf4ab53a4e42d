/-
# What a check announces

A check asks the log about one workload after the other, and the log changes while it answers: a
workload that is announced suppresses the ones of its identity that follow it.  What comes out can
be said without the changes.  A workload is announced if it is the first of its identity in the
recommendation and the log had no record of the identity from the last window (`news`).

The invariant of the pass is `suppresses_sift`: after any part of it, an identity is suppressed if
it was before or if it has been asked about.
-/
import ClusterWatch.Check
import ClusterWatch.Proofs.Recommendation.Sifting
import Mathlib.Data.List.Induction

namespace ClusterWatch.Check

open Recommendation (sift sift_append)

/-! ## What is news -/

def identityOf (x : String × FlaggedWorkload) : String := AnnouncementLog.identity x.1 x.2.name

/-- Whether a workload that comes after others is news to a log: none of them has its identity, and
the log has no record of it that is younger than the window. -/
def isNews (log : AnnouncementLog) (now : Instant) (before : List (String × FlaggedWorkload))
    (x : String × FlaggedWorkload) : Bool :=
  !(before.map identityOf).contains (identityOf x) &&
    (log.records.find? (identityOf x)).all fun last => AnnouncementLog.window ≤ now - last

def news (log : AnnouncementLog) (now : Instant) (l : List (String × FlaggedWorkload)) :
    List (String × FlaggedWorkload) :=
  (l.zipIdx.filter fun (x, i) => isNews log now (l.take i) x).map Prod.fst

theorem isNews_eq (log : AnnouncementLog) (now : Instant)
    (before : List (String × FlaggedWorkload)) (x : String × FlaggedWorkload) :
    isNews log now before x =
      !(log.suppresses (identityOf x) now || (before.map identityOf).contains (identityOf x)) := by
  have old : ((log.records.find? (identityOf x)).all fun last =>
      decide (AnnouncementLog.window ≤ now - last)) = !log.suppresses (identityOf x) now := by
    unfold AnnouncementLog.suppresses
    cases log.records.find? (identityOf x) with
    | none => rfl
    | some last => simp only [Option.all_some, ← Int.not_lt, decide_not]
  rw [isNews, old, Bool.not_or, Bool.and_comm]

theorem news_snoc (log : AnnouncementLog) (now : Instant) (l : List (String × FlaggedWorkload))
    (x : String × FlaggedWorkload) :
    news log now (l ++ [x]) = news log now l ++ if isNews log now l x then [x] else [] := by
  -- The workloads before a place of `l` are the same in the longer list.
  have same : (l.zipIdx.filter fun (y, i) => isNews log now ((l ++ [x]).take i) y) =
      l.zipIdx.filter fun (y, i) => isNews log now (l.take i) y := by
    apply List.filter_congr
    rintro ⟨y, i⟩ mem
    have inside : i < l.length := by simpa using List.snd_lt_of_mem_zipIdx mem
    dsimp only
    rw [List.take_append_of_le_length (Nat.le_of_lt inside)]
  have whole : (l ++ [x]).take l.length = l := by simp
  rw [news, List.zipIdx_append, List.filter_append, List.map_append, same, news]
  congr 1
  simp only [List.zipIdx_singleton, Nat.zero_add, List.filter_cons, whole, List.filter_nil]
  split <;> rfl

theorem mem_identities_news_snoc (log : AnnouncementLog) (now : Instant)
    (l : List (String × FlaggedWorkload)) (x : String × FlaggedWorkload) (id : String) :
    id ∈ (news log now (l ++ [x])).map identityOf ↔
      id ∈ (news log now l).map identityOf ∨ id = identityOf x ∧ isNews log now l x = true := by
  rw [news_snoc, List.map_append, List.mem_append]
  cases isNews log now l x <;> simp

theorem mem_of_mem_news {log : AnnouncementLog} {now : Instant}
    {l : List (String × FlaggedWorkload)} {x : String × FlaggedWorkload}
    (h : x ∈ news log now l) : x ∈ l ∧ log.suppresses (identityOf x) now = false := by
  obtain ⟨⟨y, i⟩, mem, rfl⟩ := List.mem_map.mp h
  obtain ⟨place, new⟩ := List.mem_filter.mp mem
  change isNews log now (l.take i) y = true at new
  rw [isNews_eq, Bool.not_or, Bool.and_eq_true, Bool.not_eq_true'] at new
  exact ⟨List.fst_mem_of_mem_zipIdx place, new.1⟩

/-! ## The pass over a recommendation -/

def asking (now : Instant) : Recommendation.Decision AnnouncementLog :=
  fun log ns w => log.announce (AnnouncementLog.identity ns w.name) now

section Pass

variable (now : Instant) (log : AnnouncementLog) (l : List (String × FlaggedWorkload))

theorem sift_asking_snoc (x : String × FlaggedWorkload) :
    sift (asking now) log (l ++ [x]) =
      ((sift (asking now) log l).1 ++
          (if ((sift (asking now) log l).2.announce (identityOf x) now).1 then [x] else []),
        ((sift (asking now) log l).2.announce (identityOf x) now).2) :=
  sift_append (asking now) log l [x]

theorem suppresses_sift (id : String) :
    (sift (asking now) log l).2.suppresses id now = true ↔
      log.suppresses id now = true ∨ id ∈ l.map identityOf := by
  induction l using List.reverseRecOn with
  | nil => simp [sift]
  | append_singleton l x ih =>
      rw [sift_asking_snoc, AnnouncementLog.suppresses_announce, ih]
      simp [or_assoc]

theorem announce_sift (x : String × FlaggedWorkload) :
    ((sift (asking now) log l).2.announce (identityOf x) now).1 = isNews log now l x := by
  rw [AnnouncementLog.announce_fst, isNews_eq]
  congr 1
  rw [Bool.eq_iff_iff, suppresses_sift]
  simp

/-- A pass keeps the news. -/
theorem sift_eq_news : (sift (asking now) log l).1 = news log now l := by
  induction l using List.reverseRecOn with
  | nil => rfl
  | append_singleton l x ih => rw [sift_asking_snoc, announce_sift, ih, news_snoc]

/-- A pass leaves the log as it was but for the news, which are recorded. -/
theorem find?_sift (id : String) :
    (sift (asking now) log l).2.records.find? id =
      if id ∈ (news log now l).map identityOf then some now else log.records.find? id := by
  induction l using List.reverseRecOn with
  | nil => simp [sift, news]
  | append_singleton l x ih =>
      simp only [sift_asking_snoc, AnnouncementLog.find?_announce, announce_sift, ih,
        mem_identities_news_snoc]
      by_cases new : id = identityOf x ∧ isNews log now l x = true
      · rw [if_pos new, if_pos (Or.inr new)]
      · simp only [new, or_false, if_false]

end Pass

theorem flagged_announce {c : Context} (on : c.deduplicate = true) (r : Recommendation) :
    (announce c r).1.flagged = news c.log c.clock r.flagged := by
  have whole := r.retain_eq_sift (asking c.clock) c.log
  rw [announce, if_pos on, ← sift_eq_news, whole]
  rfl

theorem log_announce {c : Context} (on : c.deduplicate = true) (r : Recommendation) :
    (announce c r).2 = (sift (asking c.clock) c.log r.flagged).2 := by
  have whole := r.retain_eq_sift (asking c.clock) c.log
  rw [announce, if_pos on, whole]
  rfl

theorem find?_log_announce {c : Context} (on : c.deduplicate = true) (r : Recommendation)
    (id : String) :
    ((announce c r).2.records.find? id ≠ c.log.records.find? id ↔
        id ∈ (news c.log c.clock r.flagged).map identityOf) ∧
      (id ∈ (news c.log c.clock r.flagged).map identityOf →
        (announce c r).2.records.find? id = some c.clock) := by
  rw [log_announce on, find?_sift]
  by_cases new : id ∈ (news c.log c.clock r.flagged).map identityOf
  · rw [if_pos new]
    refine ⟨⟨fun _ => new, fun _ => ?_⟩, fun _ => rfl⟩
    -- A record of this very instant would have suppressed the identity.
    intro same
    obtain ⟨x, mem, rfl⟩ := List.mem_map.mp new
    have unheeded := (mem_of_mem_news mem).2
    rw [AnnouncementLog.suppresses, ← same] at unheeded
    simp [AnnouncementLog.window] at unheeded
  · simp [new]

/-! ## From the recommendation to the end -/

/-- How a check ends whose recommendation is `r`, of which `fresh` is news, and whose messages, if
any, are delivered as `delivery` says. -/
def outcomeOf (r : Recommendation) (fresh : List (String × FlaggedWorkload)) (delivery : Delivery) :
    Outcome :=
  if r.flagged = [] then .nothingToReport
  else if fresh = [] then .suppressed r.flagged.length
  else .dispatched r.flagged.length fresh.length delivery

section Ending

variable {σ : Type} (c : Collaborators σ) {context : Context}

/-- What becomes of a decision: its result, or the messages and then the result. -/
def Decision.carryOut (s : σ) : Decision → Except Failure Result × σ
  | .finish result => (result, s)
  | .dispatch d =>
      let (delivery, s) := sendAll c d.text d.credential (d.current :: d.waiting) d.delivery s
      (.ok ⟨d.recommendation, some (.dispatched d.flagged d.announced delivery)⟩, s)

theorem carryOut_dispatchTo (s : σ) (r : Recommendation) (flagged announced : Nat)
    (text credential : String) (recipients : List Int) :
    (dispatchTo r flagged announced text credential recipients).carryOut c s =
      (.ok ⟨r, some (.dispatched flagged announced
          (sendAll c text credential recipients {} s).1)⟩,
        (sendAll c text credential recipients {} s).2) := by
  cases recipients <;> rfl

theorem perform_eq_carryOut (purpose : Purpose) {s s₁ s₂ : σ} {usage : UsageByNamespace}
    {answer : Except Failure Recommendation} (hcollect : c.collect s = (.ok usage, s₁))
    (hrecommend : c.recommend usage context.store.settings.style s₁ = (answer, s₂)) :
    perform c purpose context s =
      (((recommended purpose context answer).1.carryOut c s₂).1,
        (recommended purpose context answer).2,
        ((recommended purpose context answer).1.carryOut c s₂).2) := by
  simp only [perform, hcollect, hrecommend]
  obtain ⟨decision, log⟩ := recommended purpose context answer
  cases decision <;> rfl

/-- The messages of a check with the recommendation `r`, if it sends any. -/
def announceTo (context : Context) (r : Recommendation) (s : σ) : Delivery × σ :=
  sendAll c (Report.text (announce context r).1 context.clock) context.store.settings.token
    context.store.recipients {} s

/-- What a check comes to that asks the log, by what is flagged and what is news. -/
theorem perform_eq (on : context.deduplicate = true) {s s₁ s₂ : σ} {usage : UsageByNamespace}
    {r : Recommendation} (hcollect : c.collect s = (.ok usage, s₁))
    (hrecommend : c.recommend usage context.store.settings.style s₁ = (.ok r, s₂)) :
    perform c .notification context s =
      (.ok ⟨r, some (outcomeOf r (news context.log context.clock r.flagged)
          (announceTo c context r s₂).1)⟩,
        (announce context r).2,
        if news context.log context.clock r.flagged = [] then s₂
        else (announceTo c context r s₂).2) := by
  rw [perform_eq_carryOut c .notification hcollect hrecommend, outcomeOf]
  simp only [recommended, weigh, Recommendation.hasFlagged_iff, Recommendation.flaggedCount_eq_length,
    flagged_announce on]
  by_cases hnone : r.flagged = []
  · have untouched : (announce context r).2 = context.log := by
      rw [log_announce on, hnone]
      rfl
    simp [hnone, news, untouched, Decision.carryOut]
  · by_cases old : news context.log context.clock r.flagged = []
    · simp [hnone, old, Decision.carryOut]
    · simp only [ne_eq, hnone, old, not_false_eq_true, if_true, if_false, carryOut_dispatchTo]
      rfl

end Ending

/-- Collaborators that recommend the same at all times and take note of whom they were to tell,
which decides what becomes of the next message. -/
def telling (r : Recommendation) (answer : List Int → Except Failure Unit) :
    Collaborators (List Int) where
  collect told := (.ok .empty, told)
  recommend _ _ told := (.ok r, told)
  send recipient _ _ told := (answer told, told ++ [recipient])

/-- A workload that is flagged twice, and another one. -/
def twiceFlagged : Recommendation where
  namespaces := .ofList [("web", [{ name := "api" }, { name := "api" }, { name := "worker" }])]

end ClusterWatch.Check
