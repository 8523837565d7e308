import Widgetry.Proofs.Literals
import Widgetry.Proofs.Program.Brackets

/-! Filled lines. Setting in a text keeps its lines that hold something and drops the others; where
a carriage return stands in front of a line feed, it is dropped as well. A code that is made of
filled lines without carriage returns can be put together again from them, and each of its lines
is read on its own: behind a line feed the scanner is outside of everything. -/

namespace Widgetry.Text

/-! ### Lines between line feeds -/

/-- The lines of a text that hold something; lines are what stands between line feeds. -/
def filledLines (text : List Char) : List (List Char) :=
  (text.splitOn '\n').filter (!·.isEmpty)

/-- Lines one below the other, each with its line feed. -/
def ended (ls : List (List Char)) : List Char := ls.flatMap (· ++ ['\n'])

@[simp] theorem ended_nil : ended [] = [] := rfl

@[simp] theorem ended_cons (l : List Char) (ls : List (List Char)) :
    ended (l :: ls) = l ++ '\n' :: ended ls := by
  simp [ended]

@[simp] theorem ended_append (ls ms : List (List Char)) :
    ended (ls ++ ms) = ended ls ++ ended ms := List.flatMap_append

theorem splitOn_ended {ls : List (List Char)} (h : ∀ l ∈ ls, '\n' ∉ l) :
    (ended ls).splitOn '\n' = ls ++ [[]] := by
  induction ls with
  | nil => rfl
  | cons l ls ih =>
    rw [List.forall_mem_cons] at h
    rw [ended_cons, List.splitOn_append_cons_self_of_not_mem h.1, ih h.2, List.cons_append]

theorem feed_notMem_of_splitOn {text line : List Char} (h : line ∈ text.splitOn '\n') :
    '\n' ∉ line := by
  induction text generalizing line with
  | nil =>
    obtain rfl : line = [] := by simpa using h
    simp
  | cons c text ih =>
    rw [List.splitOn_cons_eq_if_modifyHead] at h
    split_ifs at h with hc
    · rcases List.mem_cons.1 h with rfl | h
      · simp
      · exact ih h
    · cases hsplit : text.splitOn '\n' with
      | nil => simp [hsplit] at h
      | cons first rest =>
        rw [hsplit] at h ih
        rw [List.modifyHead_cons, List.mem_cons] at h
        rcases h with rfl | h
        · have hfirst := ih List.mem_cons_self
          have hne : '\n' ≠ c := fun heq => hc (by simp [← heq])
          simp [hne, hfirst]
        · exact ih (List.mem_cons_of_mem first h)

/-- Without carriage returns, lines are what stands between line feeds, but that nothing behind the
last line feed is no line. -/
theorem splitOn_eq_lines {text : List Char} (h : '\r' ∉ text) :
    text.splitOn '\n' = lines text ∨ text.splitOn '\n' = lines text ++ [[]] := by
  fun_induction lines text with
  | case1 => exact .inr rfl
  | case2 text ih =>
    rw [List.splitOn_cons_eq_if_modifyHead]
    simpa using ih (fun hmem => h (List.mem_cons_of_mem _ hmem))
  | case3 text => simp at h
  | case4 c text hfeed _ hlines ih =>
    rw [List.mem_cons, not_or] at h
    have hc : (c == '\n') = false := beq_false_of_ne fun heq => hfeed heq
    rw [List.splitOn_cons_eq_if_modifyHead, hc]
    rw [hlines] at ih
    rcases ih h.2 with hsplit | hsplit
    · exact absurd hsplit (List.splitOn_ne_nil '\n' text)
    · simp [hsplit]
  | case5 c text hfeed _ l ls hlines ih =>
    rw [List.mem_cons, not_or] at h
    have hc : (c == '\n') = false := beq_false_of_ne fun heq => hfeed heq
    rw [List.splitOn_cons_eq_if_modifyHead, hc]
    rw [hlines] at ih
    rcases ih h.2 with hsplit | hsplit <;> simp [hsplit]

theorem filledLines_eq {text : List Char} (h : '\r' ∉ text) :
    filledLines text = (lines text).filter (!·.isEmpty) := by
  unfold filledLines
  rcases splitOn_eq_lines h with hsplit | hsplit <;> simp [hsplit]

/-- Set in, a text without carriage returns is its filled lines behind some columns. -/
theorem toList_indentLines_filled (width : Nat) {code : String} (h : '\r' ∉ code.toList) :
    (indentLines width code).toList =
      ended ((filledLines code.toList).map (List.replicate width ' ' ++ ·)) := by
  rw [Program.toList_indentLines, filledLines_eq h, Program.indented]
  induction lines code.toList with
  | nil => rfl
  | cons l ls ih =>
    rw [List.flatMap_cons, ih]
    cases l with
    | nil => rfl
    | cons c l => simp

/-! ### Codes of filled lines -/

/-- The code is made of filled lines without carriage returns, each with its line feed. -/
def FullLines (code : String) : Prop :=
  ∃ ls : List (List Char), code.toList = ended ls ∧ ∀ l ∈ ls, l ≠ [] ∧ OneLine l

@[simp] theorem oneLine_append {s t : String} :
    OneLine (s ++ t).toList ↔ OneLine s.toList ∧ OneLine t.toList := by
  rw [String.toList_append]
  exact List.forall_mem_append

theorem oneLine_pad (width : Nat) : OneLine (pad width).toList := by
  intro c hc
  obtain ⟨-, rfl⟩ : width ≠ 0 ∧ c = ' ' := by simpa [pad] using hc
  decide

namespace FullLines

theorem empty : FullLines "" := ⟨[], rfl, by simp⟩

/-- A line that ends in some mark. -/
theorem line (mark : Char) {front ending : String} (hending : ending = String.ofList [mark, '\n'])
    (hmark : OneLine [mark]) (h : OneLine front.toList) : FullLines (front ++ ending) := by
  refine ⟨[front.toList ++ [mark]], by simp [hending], List.forall_mem_singleton.2 ⟨by simp, ?_⟩⟩
  exact List.forall_mem_append.2 ⟨h, hmark⟩

theorem append {code more : String} (h : FullLines code) (h' : FullLines more) :
    FullLines (code ++ more) := by
  obtain ⟨ls, hcode, hls⟩ := h
  obtain ⟨ms, hmore, hms⟩ := h'
  exact ⟨ls ++ ms, by simp [hcode, hmore], List.forall_mem_append.2 ⟨hls, hms⟩⟩

theorem join {codes : List String} (h : ∀ code ∈ codes, FullLines code) :
    FullLines (String.join codes) := by
  induction codes with
  | nil => exact empty
  | cons code codes ih =>
    rw [List.forall_mem_cons] at h
    rw [String.join_cons]
    exact h.1.append (ih h.2)

theorem return_notMem {code : String} (h : FullLines code) : '\r' ∉ code.toList := by
  obtain ⟨ls, hcode, hls⟩ := h
  rw [hcode, ended, List.mem_flatMap]
  rintro ⟨l, hl, hmem⟩
  rcases List.mem_append.1 hmem with hmem | hmem
  · exact ((hls l hl).2 _ hmem).2 rfl
  · exact absurd hmem (by decide)

/-- Such a code is its filled lines. -/
theorem ended_filledLines {code : String} (h : FullLines code) :
    ended (filledLines code.toList) = code.toList := by
  obtain ⟨ls, hcode, hls⟩ := h
  have hfilled : ls.filter (!·.isEmpty) = ls :=
    List.filter_eq_self.2 fun l hl => by simp [(hls l hl).1]
  rw [hcode, filledLines, splitOn_ended fun l hl hfeed => ((hls l hl).2 _ hfeed).1 rfl,
    List.filter_append, hfilled]
  simp

end FullLines

end Widgetry.Text

/-! ### Lines read on their own -/

namespace Widgetry.Program

open Text (ended filledLines FullLines)

/-- Every filled line is read on its own, from outside of everything to outside of everything, and
the texts in quotes are the given ones. -/
def ReadsByLine (code : String) (values : List String) : Prop :=
  ∃ found : List (List Token),
    List.Forall₂ (fun line ts => scanTo .blank (line ++ ['\n']) = some (ts, .blank))
      (filledLines code.toList) found ∧
    found.flatMap texts = values

/-- What is read to the end of a line is read to outside of everything. -/
theorem scanTo_ended {ls : List (List Char)} {ts : List Token}
    (h : scanTo .blank (ended ls) = some (ts, .blank)) :
    ∃ found : List (List Token),
      List.Forall₂ (fun line ts => scanTo .blank (line ++ ['\n']) = some (ts, .blank)) ls found ∧
      found.flatMap texts = texts ts := by
  induction ls generalizing ts with
  | nil =>
    cases h
    exact ⟨[], .nil, rfl⟩
  | cons l ls ih =>
    have htext : ended (l :: ls) = (l ++ ['\n']) ++ ended ls := by simp
    rw [htext] at h
    obtain ⟨first, next, rest, hline, hrest, rfl⟩ := scanTo_append_eq_some.1 h
    -- the line feed leaves whatever the line is inside of
    obtain ⟨_, mode, _, -, hfeed, -⟩ := scanTo_append_eq_some.1 hline
    obtain ⟨_, _, _, hstep, hend, -⟩ := scanTo_cons_eq_some.1 hfeed
    obtain rfl : next = .blank := by
      cases hend
      exact eq_blank_of_step_feed hstep
    obtain ⟨found, hfound, htexts⟩ := ih hrest
    exact ⟨first :: found, .cons hline hfound, by simp [htexts]⟩

theorem Reads.byLine {code : String} {values : List String} (h : Reads code values)
    (hlines : FullLines code) : ReadsByLine code values := by
  obtain ⟨ts, hscan, -, rfl⟩ := h
  rw [← hlines.ended_filledLines] at hscan
  exact scanTo_ended hscan

end Widgetry.Program
