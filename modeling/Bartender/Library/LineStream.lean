import Mathlib.Data.List.Basic

/-!
# Streams read line by line

A text is a list of symbols, some of which end a line. A stream is written at
one end and read one line at a time at the other: a read waits for the end of a
line, or for the stream to be closed.
-/

namespace LineStream

variable {α : Type*} (isEnd : α → Bool)

/-- The first line with the symbol that ends it, and what follows it. -/
def readLine : List α → List α × List α
  | [] => ([], [])
  | c :: rest =>
    if isEnd c then ([c], rest) else (c :: (readLine rest).1, (readLine rest).2)

def lines : List α → List (List α)
  | [] => []
  | c :: rest =>
    if isEnd c then [c] :: lines rest
    else match lines rest with
      | [] => [[c]]
      | line :: more => (c :: line) :: more

def Ended (text : List α) : Prop := ∀ c ∈ text.getLast?, isEnd c = true

variable {isEnd}

@[simp] theorem lines_nil : lines isEnd [] = [] := rfl

theorem lines_cons_of_end {c : α} (h : isEnd c = true) (rest : List α) :
    lines isEnd (c :: rest) = [c] :: lines isEnd rest := if_pos h

theorem lines_cons_of_cons {c : α} (h : ¬ isEnd c = true) {rest line : List α}
    {more : List (List α)} (hrest : lines isEnd rest = line :: more) :
    lines isEnd (c :: rest) = (c :: line) :: more := by
  rw [lines, if_neg h, hrest]

theorem readLine_cons_of_end {c : α} (h : isEnd c = true) (rest : List α) :
    readLine isEnd (c :: rest) = ([c], rest) := if_pos h

theorem readLine_cons_of_not {c : α} (h : ¬ isEnd c = true) (rest : List α) :
    readLine isEnd (c :: rest) = (c :: (readLine isEnd rest).1, (readLine isEnd rest).2) :=
  if_neg h

theorem readLine_ne_nil {text : List α} (h : text ≠ []) : (readLine isEnd text).1 ≠ [] := by
  cases text with
  | nil => exact absurd rfl h
  | cons c rest =>
    unfold readLine
    split_ifs <;> exact List.cons_ne_nil _ _

theorem lines_eq_cons {text : List α} (h : text ≠ []) :
    lines isEnd text = (readLine isEnd text).1 :: lines isEnd (readLine isEnd text).2 := by
  induction text with
  | nil => exact absurd rfl h
  | cons c rest ih =>
    by_cases hc : isEnd c
    · rw [lines_cons_of_end hc, readLine_cons_of_end hc]
    · rw [readLine_cons_of_not hc]
      by_cases hrest : rest = []
      · rw [hrest, lines, if_neg hc]
        rfl
      · exact lines_cons_of_cons hc (ih hrest)

theorem flatten_lines (text : List α) : (lines isEnd text).flatten = text := by
  induction text with
  | nil => rfl
  | cons c rest ih =>
    unfold lines
    split_ifs
    · rw [List.flatten_cons, ih, List.singleton_append]
    · cases hrest : lines isEnd rest with
      | nil =>
        rw [hrest] at ih
        simp [← ih]
      | cons line more =>
        rw [hrest, List.flatten_cons] at ih
        rw [List.flatten_cons, List.cons_append, ih]

theorem Ended.of_cons {c : α} {rest : List α} (h : Ended isEnd (c :: rest)) : Ended isEnd rest := by
  cases rest with
  | nil => exact fun _ hc => by simp at hc
  | cons d rest => exact fun e he => h e (by rwa [List.getLast?_cons_cons])

theorem lines_ne_nil {text : List α} (h : text ≠ []) : lines isEnd text ≠ [] := by
  rw [lines_eq_cons h]
  exact List.cons_ne_nil _ _

theorem lines_append {text : List α} (h : Ended isEnd text) (more : List α) :
    lines isEnd (text ++ more) = lines isEnd text ++ lines isEnd more := by
  induction text with
  | nil => rfl
  | cons c rest ih =>
    rw [List.cons_append]
    by_cases hc : isEnd c
    · rw [lines_cons_of_end hc, lines_cons_of_end hc, ih h.of_cons, List.cons_append]
    · -- The line goes on, so that something follows the symbol.
      have hrest : rest ≠ [] := by
        rintro rfl
        exact hc (h c rfl)
      obtain ⟨line, others, hlines⟩ :=
        List.exists_cons_of_ne_nil (@lines_ne_nil α isEnd _ hrest)
      rw [lines_cons_of_cons hc hlines, lines_cons_of_cons hc, List.cons_append]
      rw [ih h.of_cons, hlines, List.cons_append]

theorem Ended.cons {c : α} {text : List α} (htext : text ≠ []) (h : Ended isEnd text) :
    Ended isEnd (c :: text) := by
  obtain ⟨d, rest, rfl⟩ := List.exists_cons_of_ne_nil htext
  intro e he
  rw [List.getLast?_cons_cons] at he
  exact h e he

theorem ended_readLine {text : List α} (h : text.any isEnd = true) :
    Ended isEnd (readLine isEnd text).1 := by
  induction text with
  | nil => simp at h
  | cons c rest ih =>
    by_cases hc : isEnd c
    · rw [readLine_cons_of_end hc]
      intro d hd
      rw [List.getLast?_singleton, Option.mem_some_iff] at hd
      rw [← hd, hc]
    · have hrest : rest.any isEnd = true := by simpa [hc] using h
      have hne : rest ≠ [] := by
        rintro rfl
        simp at hrest
      rw [readLine_cons_of_not hc]
      exact (ih hrest).cons (readLine_ne_nil hne)

theorem readLine_of_not_any {text : List α} (h : text.any isEnd = false) :
    (readLine isEnd text).2 = [] := by
  induction text with
  | nil => rfl
  | cons c rest ih =>
    rw [List.any_cons, Bool.or_eq_false_iff] at h
    rw [readLine_cons_of_not (by simp [h.1])]
    exact ih h.2

theorem Ended.append {text more : List α} (hmore : more ≠ []) (h : Ended isEnd more) :
    Ended isEnd (text ++ more) := by
  intro c hc
  rw [List.getLast?_append_of_ne_nil _ hmore] at hc
  exact h c hc

end LineStream

/-- A stream, with all that was written to it and the lines taken from it. -/
structure LineStream (α : Type*) where
  unread : List α
  isOpen : Bool
  written : List α
  taken : List (List α)

namespace LineStream

variable {α : Type*} (isEnd : α → Bool) (stream : LineStream α)

def fresh (isOpen : Bool) : LineStream α := ⟨[], isOpen, [], []⟩

def write (text : List α) : LineStream α :=
  if stream.isOpen then
    { stream with unread := stream.unread ++ text, written := stream.written ++ text }
  else stream

def close : LineStream α := { stream with isOpen := false }

/-- The line that a read returns, with the stream after it; none while the read
has to wait. At the end of a closed stream it is empty. -/
def readline : Option (List α × LineStream α) :=
  if stream.unread.any isEnd || !stream.isOpen then
    let (line, unread) := readLine isEnd stream.unread
    some (line, { stream with
      unread := unread, taken := if line = [] then stream.taken else stream.taken ++ [line] })
  else none

/-- Nothing is lost, doubled or split: what was taken and what is left are the
lines of what was written. -/
structure WellRead : Prop where
  lines : lines isEnd stream.written = stream.taken ++ lines isEnd stream.unread
  ended : Ended isEnd stream.taken.flatten ∨ stream.isOpen = false ∧ stream.unread = []

variable {isEnd stream}

@[simp] theorem write_taken (text : List α) : (stream.write text).taken = stream.taken := by
  unfold write
  split_ifs <;> rfl

theorem write_of_closed (h : stream.isOpen = false) (text : List α) :
    stream.write text = stream := by
  unfold write
  rw [h]
  rfl

theorem WellRead.fresh (isOpen : Bool) : (LineStream.fresh isOpen : LineStream α).WellRead isEnd :=
  ⟨rfl, .inl fun c hc => by simp [LineStream.fresh] at hc⟩

namespace WellRead

theorem text (h : stream.WellRead isEnd) :
    stream.taken.flatten ++ stream.unread = stream.written := by
  have hlines := congrArg List.flatten h.lines
  rwa [List.flatten_append, flatten_lines, flatten_lines, eq_comm] at hlines

theorem write (h : stream.WellRead isEnd) (text : List α) : (stream.write text).WellRead isEnd := by
  cases hopen : stream.isOpen with
  | false => rwa [write_of_closed hopen]
  | true =>
    have hended : Ended isEnd stream.taken.flatten := by
      rcases h.ended with hended | ⟨hclosed, _⟩
      · exact hended
      · exact absurd hclosed (by simp [hopen])
    -- The taken lines are those of the text that they make up.
    have htaken : LineStream.lines isEnd stream.taken.flatten = stream.taken := by
      have hlines := lines_append hended stream.unread
      rw [h.text, h.lines] at hlines
      exact (List.append_cancel_right hlines).symm
    unfold LineStream.write
    rw [hopen, if_pos rfl]
    refine ⟨?_, .inl hended⟩
    change LineStream.lines isEnd (stream.written ++ text) = _
    rw [← h.text, List.append_assoc, lines_append hended, htaken]

theorem close (h : stream.WellRead isEnd) : stream.close.WellRead isEnd :=
  ⟨h.lines, h.ended.imp_right fun hclosed => ⟨rfl, hclosed.2⟩⟩

end WellRead

/-- Either the end of a closed stream was reached, or a line was taken. -/
theorem readline_cases {line : List α} {after : LineStream α}
    (hread : stream.readline isEnd = some (line, after)) :
    (line = [] ∧ after = stream ∧ stream.isOpen = false ∧ stream.unread = []) ∨
      (stream.unread ≠ [] ∧ (stream.isOpen = true → stream.unread.any isEnd = true) ∧
        line = (readLine isEnd stream.unread).1 ∧
        after = { stream with
          unread := (readLine isEnd stream.unread).2, taken := stream.taken ++ [line] }) := by
  unfold readline at hread
  split_ifs at hread with hready
  rw [Option.some_inj, Prod.mk.injEq] at hread
  obtain ⟨hline, rfl⟩ := hread
  rw [Bool.or_eq_true, Bool.not_eq_true'] at hready
  by_cases hunread : stream.unread = []
  · refine .inl ⟨?_, ?_, ?_, hunread⟩
    · rw [← hline, hunread]
      rfl
    · obtain ⟨unread, isOpen, written, taken⟩ := stream
      subst hunread
      rfl
    · exact hready.resolve_left (by simp [hunread])
  · refine .inr ⟨hunread, fun hopen => hready.resolve_right (by simp [hopen]), hline.symm, ?_⟩
    rw [if_neg (readLine_ne_nil hunread), hline]

theorem WellRead.readline (h : stream.WellRead isEnd) {line : List α} {after : LineStream α}
    (hread : stream.readline isEnd = some (line, after)) : after.WellRead isEnd := by
  rcases readline_cases hread with ⟨_, rfl, _⟩ | ⟨hunread, hready, rfl, rfl⟩
  · exact h
  · have hended : Ended isEnd stream.taken.flatten :=
      h.ended.resolve_right fun hdone => hunread hdone.2
    refine ⟨?_, ?_⟩
    · change LineStream.lines isEnd stream.written = _ ++ LineStream.lines isEnd _
      rw [h.lines, lines_eq_cons hunread, List.append_assoc, List.singleton_append]
    · cases hany : stream.unread.any isEnd with
      | true =>
        left
        rw [List.flatten_append, List.flatten_singleton]
        exact (ended_readLine hany).append (readLine_ne_nil hunread)
      | false =>
        refine .inr ⟨?_, readLine_of_not_any hany⟩
        cases hopen : stream.isOpen with
        | false => rfl
        | true => exact absurd (hready hopen) (by simp [hany])

end LineStream
