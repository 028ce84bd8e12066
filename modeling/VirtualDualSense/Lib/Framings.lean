import Mathlib.Data.List.Basic

/-!
# Words that tell their ends

A stream is a concatenation of words. When no word is a front of another one, every front of
the stream has its words in it, and a reader finds them without further marks. Words that begin
with a header which gives the length of the rest are of this kind.
-/

namespace VirtualDualSense.Lib.Framings

variable {α : Type*} {Word : List α → Prop} {words sent : List (List α)}
  {word other part stream : List α}

/-- No word is a front of another word. -/
structure PrefixFree (Word : List α → Prop) : Prop where
  nonempty : ∀ word, Word word → word ≠ []
  eq_of_isPrefix : ∀ word other, Word word → Word other → word <+: other → word = other

namespace PrefixFree

/-- A stream begins with one word at most. -/
theorem eq_of_fronts (free : PrefixFree Word) (hword : Word word) (hother : Word other)
    (h : word <+: stream) (h' : other <+: stream) : word = other := by
  rcases List.prefix_or_prefix_of_prefix h h' with hle | hle
  · exact free.eq_of_isPrefix word other hword hother hle
  · exact (free.eq_of_isPrefix other word hother hword hle).symm

/-- The words in a front of a stream are its first words. -/
theorem exists_rest (free : PrefixFree Word) (hwords : ∀ word ∈ words, Word word)
    (hsent : ∀ word ∈ sent, Word word) (h : words.flatten ++ part <+: sent.flatten) :
    ∃ rest, sent = words ++ rest ∧ part <+: rest.flatten := by
  induction words generalizing sent with
  | nil => exact ⟨sent, rfl, h⟩
  | cons word words ih =>
      rw [List.flatten_cons, List.append_assoc] at h
      have hword := hwords word List.mem_cons_self
      have hfront : word <+: sent.flatten := (List.prefix_append _ _).trans h
      cases sent with
      | nil => exact absurd (List.prefix_nil.mp hfront) (free.nonempty word hword)
      | cons first others =>
          have hfirst : first <+: (first :: others).flatten := List.prefix_append _ _
          obtain rfl := free.eq_of_fronts hword (hsent first List.mem_cons_self) hfront hfirst
          rw [List.flatten_cons, List.prefix_append_right_inj] at h
          obtain ⟨rest, rfl, hpart⟩ := ih (fun w hw => hwords w (List.mem_cons_of_mem _ hw))
            (fun w hw => hsent w (List.mem_cons_of_mem _ hw)) h
          exact ⟨rest, rfl, hpart⟩

/-- Whatever follows some words of a stream, a front of the stream begins with them. -/
theorem take_isPrefix {rest : List α} (free : PrefixFree Word) (hwords : ∀ word ∈ words, Word word)
    (hsent : ∀ word ∈ sent, Word word) (h : words.flatten ++ part <+: sent.flatten ++ rest) :
    words.take sent.length <+: sent := by
  induction words generalizing sent with
  | nil =>
      rw [List.take_nil]
      exact List.nil_prefix
  | cons word words ih =>
      cases sent with
      | nil => exact List.prefix_refl _
      | cons first others =>
          rw [List.flatten_cons, List.flatten_cons, List.append_assoc, List.append_assoc] at h
          have hfront : word <+: first ++ (others.flatten ++ rest) :=
            (List.prefix_append _ _).trans h
          obtain rfl := free.eq_of_fronts (hwords word List.mem_cons_self)
            (hsent first List.mem_cons_self) hfront (List.prefix_append _ _)
          rw [List.prefix_append_right_inj] at h
          rw [List.length_cons, List.take_succ_cons, List.prefix_cons_inj]
          exact ih (fun w hw => hwords w (List.mem_cons_of_mem _ hw))
            (fun w hw => hsent w (List.mem_cons_of_mem _ hw)) h

end PrefixFree

section Delimited

variable {header : Nat} {size : List α → Nat}

/-- A header of fixed length, and the rest that it announces. -/
def Delimited (header : Nat) (size : List α → Nat) (word : List α) : Prop :=
  header ≤ word.length ∧ word.length = header + size (word.take header)

theorem prefixFree_delimited (hheader : 0 < header) : PrefixFree (Delimited header size) where
  nonempty := by
    rintro _ ⟨hlength, -⟩ rfl
    exact absurd hlength (by rw [List.length_nil]; omega)
  eq_of_isPrefix := by
    rintro word other ⟨hword, hsize⟩ ⟨-, hother⟩ hprefix
    have htake : word.take header = other.take header := by
      obtain ⟨rest, rfl⟩ := hprefix
      rw [List.take_append_of_le_length hword]
    exact hprefix.eq_of_length (by rw [hsize, hother, htake])

/-- A part with a whole header is a front of the next word, or behind it. -/
theorem take_header_eq {first : List α} {rest : List (List α)}
    (hfirst : Delimited header size first) (h : part <+: (first :: rest).flatten)
    (hpart : header ≤ part.length) : part.take header = first.take header := by
  obtain ⟨more, hmore⟩ := h
  have hfront : (part ++ more).take header = (first ++ rest.flatten).take header :=
    congrArg (List.take header) hmore
  rwa [List.take_append_of_le_length hpart, List.take_append_of_le_length hfirst.1] at hfront

end Delimited

end VirtualDualSense.Lib.Framings
