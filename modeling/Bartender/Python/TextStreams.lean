import Bartender.Library.LineStream
import Mathlib.Data.List.ReduceOption

/-!
# Text streams

A pipe that is read as text with universal newlines. What is written to it are
characters, and bytes among them that cannot be decoded. A return, a newline and
one after the other all end a line, and are read as a newline. A line is there
as soon as its return is, where the interpreter looks at the next character first.
-/

namespace Bartender

def isNewline (c : Option Char) : Bool := c == some '\n'

/-- What is read of a text, which may follow a return. -/
def translateNewlines : Bool → List (Option Char) → List (Option Char)
  | _, [] => []
  | afterReturn, c :: rest =>
    if c = some '\r' then some '\n' :: translateNewlines true rest
    else if c = some '\n' ∧ afterReturn then translateNewlines false rest
    else c :: translateNewlines false rest

def endsInReturn (afterReturn : Bool) (text : List (Option Char)) : Bool :=
  text.foldl (fun _ c => c = some '\r') afterReturn

/-- The lines of a text as they are read. -/
def textLines (text : List (Option Char)) : List (List (Option Char)) :=
  LineStream.lines isNewline (translateNewlines false text)

theorem translateNewlines_append (afterReturn : Bool) (text more : List (Option Char)) :
    translateNewlines afterReturn (text ++ more) =
      translateNewlines afterReturn text ++
        translateNewlines (endsInReturn afterReturn text) more := by
  induction text generalizing afterReturn with
  | nil => rfl
  | cons c rest ih =>
    have hends : endsInReturn afterReturn (c :: rest) = endsInReturn (c = some '\r') rest := rfl
    rw [List.cons_append, hends, translateNewlines, translateNewlines]
    split_ifs with hreturn hnewline
    · rw [ih, List.cons_append, decide_eq_true hreturn]
    · rw [ih, decide_eq_false hreturn]
    · rw [ih, List.cons_append, decide_eq_false hreturn]

theorem none_mem_translateNewlines {afterReturn : Bool} {text : List (Option Char)} :
    none ∈ translateNewlines afterReturn text ↔ none ∈ text := by
  induction text generalizing afterReturn with
  | nil => exact Iff.rfl
  | cons c rest ih =>
    rw [translateNewlines]
    split_ifs with hreturn hnewline
    · simp [hreturn, ih]
    · simp [hnewline.1, ih]
    · simp [ih]

structure TextPipe extends LineStream (Option Char) where
  raw : List (Option Char)

namespace TextPipe

variable (pipe : TextPipe)

def fresh (isOpen : Bool) : TextPipe := ⟨.fresh isOpen, []⟩

def write (text : List (Option Char)) : TextPipe :=
  if pipe.isOpen then
    ⟨pipe.toLineStream.write (translateNewlines (endsInReturn false pipe.raw) text),
      pipe.raw ++ text⟩
  else pipe

def close : TextPipe := ⟨pipe.toLineStream.close, pipe.raw⟩

/-- The next line that is decoded, with the pipe after it; none while the read has
to wait, or cannot return. -/
def readline : Option (List (Option Char) × TextPipe) :=
  match pipe.toLineStream.readline isNewline with
  | some (line, stream) => if none ∈ line then none else some (line, ⟨stream, pipe.raw⟩)
  | none => none

def Undecodable : Prop := none ∈ pipe.unread

instance : Decidable pipe.Undecodable := inferInstanceAs (Decidable (none ∈ pipe.unread))

/-- Nothing is lost, doubled or split, and what was taken could be decoded. -/
structure WellRead : Prop where
  stream : pipe.toLineStream.WellRead isNewline
  written : pipe.written = translateNewlines false pipe.raw
  decoded : ∀ line ∈ pipe.taken, none ∉ line

variable {pipe}

theorem write_of_closed (h : pipe.isOpen = false) (text : List (Option Char)) :
    pipe.write text = pipe := by
  unfold write
  rw [h]
  rfl

@[simp] theorem write_taken (text : List (Option Char)) : (pipe.write text).taken = pipe.taken := by
  unfold write
  split_ifs
  · exact LineStream.write_taken _
  · rfl

theorem mem_raw_write {c : Option Char} (h : c ∈ pipe.raw) (text : List (Option Char)) :
    c ∈ (pipe.write text).raw := by
  unfold write
  split_ifs
  · exact List.mem_append_left _ h
  · exact h

theorem WellRead.fresh (isOpen : Bool) : (TextPipe.fresh isOpen).WellRead :=
  ⟨.fresh isOpen, rfl, List.forall_mem_nil _⟩

theorem WellRead.write (h : pipe.WellRead) (text : List (Option Char)) :
    (pipe.write text).WellRead := by
  refine ⟨?_, ?_, by simpa using h.decoded⟩
  · unfold TextPipe.write
    split_ifs
    · exact h.stream.write _
    · exact h.stream
  · unfold TextPipe.write
    split_ifs with hopen
    · rw [translateNewlines_append, ← h.written]
      exact congrArg LineStream.written (if_pos hopen)
    · exact h.written

theorem WellRead.close (h : pipe.WellRead) : pipe.close.WellRead :=
  ⟨h.stream.close, h.written, h.decoded⟩

theorem readline_cases {line : List (Option Char)} {after : TextPipe}
    (hread : pipe.readline = some (line, after)) :
    (line = [] ∧ after = pipe ∧ pipe.isOpen = false ∧ pipe.unread = []) ∨
      (pipe.unread ≠ [] ∧ line ≠ [] ∧ none ∉ line ∧ after.taken = pipe.taken ++ [line]) := by
  unfold readline at hread
  split at hread
  · next line' stream hstream =>
    split_ifs at hread with hdecoded
    obtain ⟨rfl, rfl⟩ := Prod.mk.inj (Option.some.inj hread)
    rcases LineStream.readline_cases hstream with
      ⟨hline, rfl, hclosed, hunread⟩ | ⟨hunread, -, hline, rfl⟩
    · exact .inl ⟨hline, rfl, hclosed, hunread⟩
    · exact .inr ⟨hunread, hline ▸ LineStream.readLine_ne_nil hunread, hdecoded, rfl⟩
  · cases hread

theorem WellRead.readline (h : pipe.WellRead) {line : List (Option Char)} {after : TextPipe}
    (hread : pipe.readline = some (line, after)) : after.WellRead := by
  unfold TextPipe.readline at hread
  split at hread
  · next line' stream hstream =>
    split_ifs at hread with hdecoded
    obtain ⟨rfl, rfl⟩ := Prod.mk.inj (Option.some.inj hread)
    refine ⟨h.stream.readline hstream, ?_, ?_⟩
    · rcases LineStream.readline_cases hstream with ⟨-, rfl, -⟩ | ⟨-, -, -, rfl⟩ <;>
        exact h.written
    · rcases LineStream.readline_cases hstream with ⟨-, rfl, -⟩ | ⟨-, -, -, rfl⟩
      · exact h.decoded
      · intro line hline
        rcases List.mem_append.mp hline with hline | hline
        · exact h.decoded line hline
        · rwa [List.mem_singleton.mp hline]
  · cases hread

theorem WellRead.textLines (h : pipe.WellRead) :
    textLines pipe.raw = pipe.taken ++ LineStream.lines isNewline pipe.unread := by
  unfold Bartender.textLines
  rw [← h.written]
  exact h.stream.lines

theorem WellRead.none_mem_raw_iff (h : pipe.WellRead) : none ∈ pipe.raw ↔ none ∈ pipe.unread := by
  rw [← @none_mem_translateNewlines false, ← h.written, ← h.stream.text,
    List.mem_append, List.mem_flatten]
  refine or_iff_right ?_
  rintro ⟨line, hline, hnone⟩
  exact h.decoded line hline hnone

end TextPipe

end Bartender
