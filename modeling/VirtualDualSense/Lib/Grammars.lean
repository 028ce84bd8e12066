import VirtualDualSense.Lib.Scanners

/-!
# Languages of scanners

A language relates texts to the values they denote. A scanner reads a language when it splits
off exactly the texts of the language, with the values that they denote. A loop of a scanner
reads the repetitions of its language.
-/

namespace VirtualDualSense.Lib.Grammars

open Scanners

variable {τ ε α : Type}

/-- The scanner splits off the texts of the language and no others. -/
def Reads (scan : List τ → Except ε (α × List τ)) (language : List τ → α → Prop) : Prop :=
  ∀ text value rest, scan text = .ok (value, rest) ↔
    ∃ token, text = token ++ rest ∧ language token value

section Loops

/-- Pieces of a loop, the last of them marked. -/
inductive Repeated (piece : Bool → List τ → List α → Prop) : List τ → List α → Prop
  | last {token values} (h : piece true token values) : Repeated piece token values
  | more {token values rest more} (h : piece false token values)
      (hrest : Repeated piece rest more) : Repeated piece (token ++ rest) (values ++ more)

variable (s : Scanner τ ε (List α × Bool)) {piece : Bool → List τ → List α → Prop}

/-- A loop reads the repetitions of what its scanner reads. -/
theorem loop_eq_ok_iff
    (h : Reads s.scan fun token result => piece result.2 token result.1)
    (values result : List α) (text rest : List τ) : s.loop values text = .ok (result, rest) ↔
      ∃ token more, text = token ++ rest ∧ result = values ++ more ∧
        Repeated piece token more := by
  constructor
  · intro hloop
    fun_induction Scanner.loop s values text with
    | case1 values text e herror => cases hloop
    | case2 values text values' rest' hscan =>
        cases hloop
        obtain ⟨token, htext, htoken⟩ := (h _ _ _).mp hscan
        exact ⟨token, values', htext, rfl, .last htoken⟩
    | case3 values text values' isLast rest' hscan hmore ih =>
        obtain rfl := (Bool.not_eq_true isLast).mp hmore
        obtain ⟨token, htext, htoken⟩ := (h _ _ _).mp hscan
        obtain ⟨others, more, hrest, hresult, hrepeated⟩ := ih hloop
        refine ⟨token ++ others, values' ++ more, ?_, ?_, .more htoken hrepeated⟩
        · rw [htext, hrest, List.append_assoc]
        · rw [hresult, List.append_assoc]
  · rintro ⟨token, more, rfl, rfl, hrepeated⟩
    induction hrepeated generalizing values with
    | last hpiece => exact s.loop_of_last ((h _ _ _).mpr ⟨_, rfl, hpiece⟩) values
    | @more token values' others more hpiece hrest ih =>
        have hscan := (h (token ++ (others ++ rest)) (values', false) (others ++ rest)).mpr
          ⟨token, rfl, hpiece⟩
        rw [List.append_assoc, s.loop_of_more hscan, ih, List.append_assoc]

theorem loop_congr {text text' : List τ} (h : s.scan text = s.scan text') (values : List α) :
    s.loop values text = s.loop values text' := by
  rw [Scanner.loop, Scanner.loop]
  rw [h]

end Loops

section Separators

/-- One or more items with a separator between them. -/
inductive Separated (comma : τ) (item : List τ → α → Prop) : List τ → List α → Prop
  | single {token value} (h : item token value) : Separated comma item token [value]
  | cons {token value rest values} (h : item token value)
      (hrest : Separated comma item rest values) :
      Separated comma item (token ++ comma :: rest) (value :: values)

/-- An item that ends with a separator, or with the end mark when it is the last one. -/
def Ended (comma close : τ) (item : List τ → α → Prop) (isLast : Bool) (token : List τ)
    (values : List α) : Prop :=
  ∃ text value, token = text ++ [if isLast then close else comma] ∧ values = [value] ∧
    item text value

/-- A loop over such items reads the separated ones up to the end mark. -/
theorem repeated_ended_iff {comma close : τ} {item : List τ → α → Prop} {token : List τ}
    {values : List α} : Repeated (Ended comma close item) token values ↔
      ∃ inner, token = inner ++ [close] ∧ Separated comma item inner values := by
  constructor
  · intro h
    induction h with
    | last h =>
        obtain ⟨text, value, rfl, rfl, hitem⟩ := h
        exact ⟨text, rfl, .single hitem⟩
    | more h hrest ih =>
        obtain ⟨text, value, rfl, rfl, hitem⟩ := h
        obtain ⟨inner, rfl, hinner⟩ := ih
        exact ⟨text ++ comma :: inner, by simp, .cons hitem hinner⟩
  · rintro ⟨inner, rfl, h⟩
    induction h with
    | single hitem => exact .last ⟨_, _, rfl, rfl, hitem⟩
    | @cons text value rest values hitem hrest ih =>
        have hpiece : Ended comma close item false (text ++ [comma]) [value] :=
          ⟨text, value, rfl, rfl, hitem⟩
        have hmore := Repeated.more hpiece ih
        simpa using hmore

end Separators

end VirtualDualSense.Lib.Grammars
