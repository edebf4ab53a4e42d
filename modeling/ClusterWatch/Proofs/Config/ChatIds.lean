/-
# Lists of chat ids

A list of ids is cut at its commas, and each piece is read without the blanks around it.  One piece
says nothing about the next: a blank one is passed over, one that holds an id puts this id in front
of those that follow, and any other, a *stray* piece, ends the reading there
(`readPieces_blank`, `readPieces_id`, `readPieces_stray`).

So ids come back in the order in which they were written, whatever blanks stand around them and
however many blank pieces are between them (`Written`), and the fault that is reported is that of
the first stray piece.
-/
import ClusterWatch.Config
import ClusterWatch.Proofs.Number.Numeral
import ClusterWatch.Proofs.Text.Trimming

namespace ClusterWatch.Config

open Text (Trims isBlank)

/-! ## One id -/

/-- The text of an id: an integer of 64 bits, perhaps with a sign and with zeros in front. -/
def IsChatId (cs : List Char) (id : Int) : Prop :=
  Decimal.SpellsInt id cs ∧ Decimal.minI64 ≤ id ∧ id ≤ Decimal.maxI64

theorem readInt?_eq_some_iff_isChatId {part : String} {id : Int} :
    Decimal.readInt? Decimal.minI64 Decimal.maxI64 part = some id ↔ IsChatId part.toList id :=
  Decimal.readInt?_eq_some_iff

theorem readChatId_of_isChatId {part : String} {id : Int} (h : IsChatId part.toList id) :
    readChatId part = .ok id := by
  rw [readChatId, readInt?_eq_some_iff_isChatId.mpr h]

theorem readChatId_of_not_isChatId {part : String} (h : ∀ id, ¬IsChatId part.toList id) :
    readChatId part = .error (.noChatId part) := by
  have hnone : Decimal.readInt? Decimal.minI64 Decimal.maxI64 part = none :=
    Option.eq_none_iff_forall_ne_some.mpr fun id read =>
      h id (readInt?_eq_some_iff_isChatId.mp read)
  rw [readChatId, hnone]

theorem IsChatId.trims {front cs back : List Char} {id : Int} (h : IsChatId cs id)
    (before : front.all isBlank = true) (after : back.all isBlank = true) :
    Trims (front ++ cs ++ back) cs := by
  have solid : ∀ c ∈ cs, isBlank c = false :=
    fun c inside => Binary64.isBlank_of_isLiteralChar (h.1.isLiteralChar c inside)
  exact .intro before after (fun c head => solid c (List.mem_of_mem_head? head))
    fun c last => solid c (List.mem_of_mem_getLast? last)

/-! ## One piece of a list -/

/-- Reads the ids of the pieces of a list. -/
def readPieces (pieces : List (List Char)) : Except Fault (List Int) :=
  ((pieces.map fun piece => String.ofList (Text.trimList piece)).filter
    fun part => part != "").mapM readChatId

theorem readChatIds_eq (raw : String) : readChatIds raw = readPieces (raw.toList.splitOn ',') :=
  rfl

/-- A piece that is neither blank nor holds an id. -/
def IsStray (piece : List Char) : Prop :=
  ∃ part, Trims piece part ∧ part ≠ [] ∧ ∀ id, ¬IsChatId part id

section Piece

variable {piece part : List Char} {pieces : List (List Char)} {id : Int}

theorem readPieces_blank (blank : piece.all isBlank = true) :
    readPieces (piece :: pieces) = readPieces pieces := by
  have nothing : Text.trimList piece = [] := Text.trimList_eq_iff.mpr (Text.trims_nil_iff.mpr blank)
  simp [readPieces, nothing]

theorem readPieces_cons (trims : Trims piece part) (hsome : part ≠ []) :
    readPieces (piece :: pieces) =
      (readChatId (String.ofList part)).bind fun id => (readPieces pieces).map (id :: ·) := by
  have kept : (String.ofList part != "") = true := by
    rw [bne_iff_ne]
    intro empty
    exact hsome (by simpa using congrArg String.toList empty)
  simp only [readPieces, List.map_cons, Text.trimList_eq_iff.mpr trims, List.filter_cons, kept,
    if_true, List.mapM_cons]
  rfl

theorem readPieces_id (trims : Trims piece part) (isId : IsChatId part id) :
    readPieces (piece :: pieces) = (readPieces pieces).map (id :: ·) := by
  rw [readPieces_cons trims isId.1.ne_nil,
    readChatId_of_isChatId (by rw [String.toList_ofList]; exact isId)]
  rfl

theorem readPieces_stray (trims : Trims piece part) (hsome : part ≠ [])
    (stray : ∀ id, ¬IsChatId part id) :
    readPieces (piece :: pieces) = .error (.noChatId (String.ofList part)) := by
  rw [readPieces_cons trims hsome,
    readChatId_of_not_isChatId (by rw [String.toList_ofList]; exact stray)]
  rfl

theorem piece_cases (piece : List Char) :
    piece.all isBlank = true ∨ (∃ part id, Trims piece part ∧ IsChatId part id) ∨
      IsStray piece := by
  have trims := Text.trims_trimList piece
  by_cases blank : Text.trimList piece = []
  · rw [blank] at trims
    exact Or.inl (Text.trims_nil_iff.mp trims)
  by_cases isId : ∃ id, IsChatId (Text.trimList piece) id
  · obtain ⟨id, isId⟩ := isId
    exact Or.inr (Or.inl ⟨_, id, trims, isId⟩)
  · exact Or.inr (Or.inr ⟨_, trims, blank, not_exists.mp isId⟩)

end Piece

/-! ## Whole lists -/

/-- Pieces that hold ids as they are written, in order, with any blanks around each of them, and
blank pieces anywhere. -/
inductive Written : List (List Char) → List Int → Prop
  | nil : Written [] []
  | blank {piece : List Char} {pieces : List (List Char)} {ids : List Int}
      (blank : piece.all isBlank = true) (rest : Written pieces ids) : Written (piece :: pieces) ids
  | id {front back : List Char} {id : Int} {pieces : List (List Char)} {ids : List Int}
      (before : front.all isBlank = true) (after : back.all isBlank = true)
      (fits : Decimal.minI64 ≤ id ∧ id ≤ Decimal.maxI64) (rest : Written pieces ids) :
      Written ((front ++ (Decimal.ofInt id).toList ++ back) :: pieces) (id :: ids)

def commaSeparated (pieces : List (List Char)) : String :=
  String.ofList (Text.joinWith [','] pieces)

variable {pieces : List (List Char)} {ids : List Int}

theorem Written.readPieces_eq (h : Written pieces ids) : readPieces pieces = .ok ids := by
  induction h with
  | nil => rfl
  | blank blank _ ih => rw [readPieces_blank blank, ih]
  | id before after fits _ ih =>
      have isId : IsChatId (Decimal.ofInt _).toList _ := ⟨Decimal.spellsInt_ofInt _, fits⟩
      rw [readPieces_id (isId.trims before after) isId, ih]
      rfl

theorem Written.comma_not_mem (h : Written pieces ids) : ∀ piece ∈ pieces, ',' ∉ piece := by
  have blank {cs : List Char} (blanks : cs.all isBlank = true) : ',' ∉ cs :=
    fun comma => absurd (List.all_eq_true.mp blanks ',' comma) (by decide)
  induction h with
  | nil => exact nofun
  | blank blanks _ ih => exact List.forall_mem_cons.mpr ⟨blank blanks, ih⟩
  | id before after _ _ ih =>
      refine List.forall_mem_cons.mpr ⟨?_, ih⟩
      rw [List.mem_append, List.mem_append]
      rintro ((comma | comma) | comma)
      · exact blank before comma
      · exact absurd ((Decimal.spellsInt_ofInt _).isLiteralChar ',' comma) (by decide)
      · exact blank after comma

theorem Written.readChatIds_eq (h : Written pieces ids) :
    readChatIds (commaSeparated pieces) = .ok ids := by
  by_cases hnone : pieces = []
  · subst hnone
    cases h
    rfl
  · have cut : (Text.joinWith [','] pieces).splitOn ',' = pieces :=
      Text.piecesBy_joinWith ',' h.comma_not_mem hnone
    rw [Config.readChatIds_eq, commaSeparated, String.toList_ofList, cut, h.readPieces_eq]

/-- The first stray piece ends the reading. -/
theorem readPieces_append_stray {before after : List (List Char)} {piece part : List Char}
    (fine : ∀ earlier ∈ before, ¬IsStray earlier) (trims : Trims piece part) (hsome : part ≠ [])
    (stray : ∀ id, ¬IsChatId part id) :
    readPieces (before ++ piece :: after) = .error (.noChatId (String.ofList part)) := by
  induction before with
  | nil => exact readPieces_stray trims hsome stray
  | cons first before ih =>
      obtain ⟨fineFirst, fine⟩ := List.forall_mem_cons.mp fine
      rw [List.cons_append]
      rcases piece_cases first with blank | ⟨_, id, trims, isId⟩ | strayFirst
      · rw [readPieces_blank blank, ih fine]
      · rw [readPieces_id trims isId, ih fine]
        rfl
      · exact absurd strayFirst fineFirst

theorem exists_first_stray (h : ∃ piece ∈ pieces, IsStray piece) :
    ∃ before piece after, pieces = before ++ piece :: after ∧
      (∀ earlier ∈ before, ¬IsStray earlier) ∧ IsStray piece := by
  induction pieces with
  | nil =>
      obtain ⟨piece, hnone, -⟩ := h
      cases hnone
  | cons first pieces ih =>
      by_cases strayFirst : IsStray first
      · exact ⟨[], first, pieces, rfl, nofun, strayFirst⟩
      · obtain ⟨piece, mem, stray⟩ := h
        have later : piece ∈ pieces := by
          rcases List.mem_cons.mp mem with rfl | later
          · exact absurd stray strayFirst
          · exact later
        obtain ⟨before, piece, after, split, fine, stray⟩ := ih ⟨piece, later, stray⟩
        exact ⟨first :: before, piece, after, by rw [split, List.cons_append],
          List.forall_mem_cons.mpr ⟨strayFirst, fine⟩, stray⟩

theorem exists_readChatIds_iff {raw : String} :
    (∃ ids, readChatIds raw = .ok ids) ↔ ∀ piece ∈ raw.toList.splitOn ',', ¬IsStray piece := by
  rw [readChatIds_eq]
  generalize raw.toList.splitOn ',' = pieces
  constructor
  · rintro ⟨ids, read⟩ piece mem stray
    obtain ⟨before, first, after, rfl, fine, part, trims, hsome, noId⟩ :=
      exists_first_stray ⟨piece, mem, stray⟩
    rw [readPieces_append_stray fine trims hsome noId] at read
    cases read
  · intro fine
    induction pieces with
    | nil => exact ⟨[], rfl⟩
    | cons piece pieces ih =>
        obtain ⟨fineFirst, fine⟩ := List.forall_mem_cons.mp fine
        obtain ⟨ids, read⟩ := ih fine
        rcases piece_cases piece with blank | ⟨_, id, trims, isId⟩ | stray
        · exact ⟨ids, by rw [readPieces_blank blank, read]⟩
        · exact ⟨id :: ids, by rw [readPieces_id trims isId, read]; rfl⟩
        · exact absurd stray fineFirst

/-- Ids that are written with commas between them, with any blanks around each of them and blank
pieces anywhere, come back as they are and in order.  Of a text with stray pieces no ids are read,
and the fault that is reported names what stands in the first one. -/
theorem chat_ids_come_back :
    (∀ pieces ids, Written pieces ids → readChatIds (commaSeparated pieces) = .ok ids) ∧
      ∀ raw : String, (∃ piece ∈ raw.toList.splitOn ',', IsStray piece) →
        ∃ before piece after part,
          raw.toList.splitOn ',' = before ++ piece :: after ∧
            (∀ earlier ∈ before, ¬IsStray earlier) ∧ IsStray piece ∧ Trims piece part.toList ∧
            readChatIds raw = .error (.noChatId part) ∧
            (Fault.noChatId part).message = "Invalid chat id: " ++ part := by
  refine ⟨fun _ _ written => written.readChatIds_eq, ?_⟩
  intro raw strays
  obtain ⟨before, piece, after, split, fine, stray⟩ := exists_first_stray strays
  obtain ⟨part, trims, hsome, noId⟩ := stray
  refine ⟨before, piece, after, String.ofList part, split, fine, ⟨part, trims, hsome, noId⟩,
    by rwa [String.toList_ofList], ?_, rfl⟩
  rw [readChatIds_eq, split]
  exact readPieces_append_stray fine trims hsome noId

/-- Both ends of the range, one id twice, blanks of several kinds, and blank pieces everywhere. -/
def farApart : List (List Char) :=
  [[' '], ['\u3000'] ++ (Decimal.ofInt Decimal.minI64).toList ++ ['\t'], [],
   [] ++ (Decimal.ofInt 7).toList ++ [], [' '] ++ (Decimal.ofInt 7).toList ++ ['\u00a0'],
   [] ++ (Decimal.ofInt Decimal.maxI64).toList ++ ['\u2028', '\n'], []]

/-- The extreme ids come back, and of two stray pieces the first one is named. -/
theorem chat_ids_far_apart_come_back :
    readChatIds (commaSeparated farApart) = .ok [Decimal.minI64, 7, 7, Decimal.maxI64] ∧
      ∃ before piece after part,
        "1, x y,,z".toList.splitOn ',' = before ++ piece :: after ∧ IsStray piece ∧
          readChatIds "1, x y,,z" = .error (.noChatId part) ∧ part = "x y" := by
  obtain ⟨back, named⟩ := chat_ids_come_back
  constructor
  · refine back farApart _ ?_
    refine .blank rfl (.id (by decide) (by decide) (by decide) (.blank rfl ?_))
    refine .id rfl rfl (by decide) (.id (by decide) (by decide) (by decide) ?_)
    exact .id rfl (by decide) (by decide) (.blank rfl .nil)
  · have noInt : Decimal.readInt? Decimal.minI64 Decimal.maxI64 "x y" = none := by decide
    have noId : ∀ id, ¬IsChatId "x y".toList id := by
      intro id isId
      rw [readInt?_eq_some_iff_isChatId.mpr isId] at noInt
      cases noInt
    have trims : Trims " x y".toList "x y".toList := Text.trimList_eq_iff.mp rfl
    have stray : IsStray " x y".toList := ⟨_, trims, by decide, noId⟩
    obtain ⟨before, piece, after, part, split, -, isStray, -, read, -⟩ :=
      named "1, x y,,z" ⟨_, by decide, stray⟩
    refine ⟨before, piece, after, part, split, isStray, read, ?_⟩
    have computed : readChatIds "1, x y,,z" = .error (.noChatId "x y") := rfl
    rw [read] at computed
    cases computed
    rfl

end ClusterWatch.Config
