import Mathlib.Data.List.Basic

/-!
# Scanners

A scanner reads a value off the front of a text and returns it with the text that
is left. A loop repeats a scanner that says with each piece whether it was the last
one; it ends because a scanner consumes at least one element of its text.
-/

namespace VirtualDualSense.Lib.Scanners

variable {τ ε α β : Type}

theorem ok_bind (value : α) (next : α → Except ε β) :
    (Except.ok value >>= next) = next value := rfl

/-- A sequence of two computations succeeds when both of them do. -/
theorem exists_of_bind_eq_ok {first : Except ε α} {next : α → Except ε β} {result : β}
    (h : first >>= next = .ok result) :
    ∃ value, first = .ok value ∧ next value = .ok result := by
  cases first with
  | error e => cases h
  | ok value => exact ⟨value, rfl, h⟩

/-- A sequence of two computations fails when one of them does. -/
theorem cases_of_bind_eq_error {first : Except ε α} {next : α → Except ε β} {error : ε}
    (h : first >>= next = .error error) :
    first = .error error ∨ ∃ value, first = .ok value ∧ next value = .error error := by
  cases first with
  | error e =>
      cases h
      exact .inl rfl
  | ok value => exact .inr ⟨value, rfl, h⟩

/-- Every result of a sequence of computations is the result of one of them. -/
theorem exists_of_mem_mapM {f : α → Except ε β} {items : List α} {results : List β}
    (h : items.mapM f = .ok results) {result : β} (hresult : result ∈ results) :
    ∃ item ∈ items, f item = .ok result := by
  induction items generalizing results with
  | nil =>
      cases h
      cases hresult
  | cons item items ih =>
      rw [List.mapM_cons] at h
      obtain ⟨first, hfirst, h⟩ := exists_of_bind_eq_ok h
      obtain ⟨others, hothers, h⟩ := exists_of_bind_eq_ok h
      cases h
      rcases List.mem_cons.mp hresult with rfl | hmem
      · exact ⟨item, List.mem_cons_self, hfirst⟩
      · obtain ⟨found, hfound, hvalue⟩ := ih hothers hmem
        exact ⟨found, List.mem_cons_of_mem _ hfound, hvalue⟩

section MapError

variable {ε' : Type} {f : ε → ε'} {result : Except ε α}

theorem ok_of_mapError_eq_ok {value : α} (h : result.mapError f = .ok value) :
    result = .ok value := by
  cases result with
  | error e => cases h
  | ok other => exact congrArg Except.ok (Except.ok.inj h)

theorem exists_of_mapError_eq_error {error : ε'} (h : result.mapError f = .error error) :
    ∃ e, result = .error e ∧ f e = error := by
  cases result with
  | error e => exact ⟨e, rfl, Except.error.inj h⟩
  | ok value => cases h

end MapError

/-- Printed pieces with separators begin with the first piece. -/
theorem exists_intercalate_eq (print : α → List τ) (comma : List τ) (first : α)
    (printed : List α) (rest : List τ) :
    ∃ tail, comma.intercalate ((first :: printed).map print) ++ rest = print first ++ tail := by
  cases printed with
  | nil => exact ⟨rest, by rw [List.map_singleton, List.intercalate_singleton]⟩
  | cons second printed =>
      refine ⟨comma ++ (comma.intercalate ((second :: printed).map print) ++ rest), ?_⟩
      rw [List.map_cons, List.map_cons, List.intercalate_cons_cons, List.append_assoc,
        List.append_assoc]

theorem mem_of_mem_intercalate {comma : List τ} {texts : List (List τ)} {a : τ}
    (h : a ∈ comma.intercalate texts) : a ∈ comma ∨ ∃ text ∈ texts, a ∈ text := by
  induction texts with
  | nil => cases h
  | cons first texts ih =>
      cases texts with
      | nil =>
          rw [List.intercalate_singleton] at h
          exact .inr ⟨first, List.mem_cons_self, h⟩
      | cons second texts =>
          rw [List.intercalate_cons_cons, List.mem_append, List.mem_append] at h
          obtain (hfirst | hcomma) | hrest := h
          · exact .inr ⟨first, List.mem_cons_self, hfirst⟩
          · exact .inl hcomma
          · obtain hcomma | ⟨text, htext, ha⟩ := ih hrest
            · exact .inl hcomma
            · exact .inr ⟨text, List.mem_cons_of_mem first htext, ha⟩

structure Scanner (τ ε α : Type) where
  scan : List τ → Except ε (α × List τ)
  shrinks : ∀ {text value rest}, scan text = .ok (value, rest) → rest.length < text.length

/-- A scanner that reads the same when more text follows. -/
def Extends (scan : List τ → Except ε (α × List τ)) : Prop :=
  ∀ {text value rest}, scan text = .ok (value, rest) →
    ∀ more, scan (text ++ more) = .ok (value, rest ++ more)

namespace Scanner

variable (s : Scanner τ ε (List α × Bool)) {text rest : List τ} {piece : List α}

/-- Append the pieces to `values` until one of them is the last. -/
def loop (values : List α) (text : List τ) : Except ε (List α × List τ) :=
  match _h : s.scan text with
  | .error e => .error e
  | .ok ((piece, isLast), rest) =>
      if isLast then .ok (values ++ piece, rest) else loop (values ++ piece) rest
termination_by text.length
decreasing_by exact s.shrinks _h

theorem loop_of_last (h : s.scan text = .ok ((piece, true), rest)) (values : List α) :
    s.loop values text = .ok (values ++ piece, rest) := by
  rw [loop]
  split
  · rename_i e herror
    cases h.symm.trans herror
  · rename_i piece' isLast rest' hscan
    cases h.symm.trans hscan
    rfl

theorem loop_of_more (h : s.scan text = .ok ((piece, false), rest)) (values : List α) :
    s.loop values text = s.loop (values ++ piece) rest := by
  rw [loop]
  split
  · rename_i e herror
    cases h.symm.trans herror
  · rename_i piece' isLast rest' hscan
    cases h.symm.trans hscan
    rfl

theorem loop_shrinks {values result : List α} (h : s.loop values text = .ok (result, rest)) :
    rest.length < text.length := by
  fun_induction loop s values text with
  | case1 values text e herror => cases h
  | case2 values text piece rest' hscan =>
      cases h
      exact s.shrinks hscan
  | case3 values text piece isLast rest' hscan hmore ih =>
      exact Nat.lt_trans (ih h) (s.shrinks hscan)

theorem loop_extends (h : Extends s.scan) (values : List α) : Extends (s.loop values) := by
  intro text value rest hloop more
  fun_induction loop s values text with
  | case1 values text e herror => cases hloop
  | case2 values text piece rest' hscan =>
      cases hloop
      exact s.loop_of_last (h hscan more) values
  | case3 values text piece isLast rest' hscan hmore ih =>
      obtain rfl := (Bool.not_eq_true isLast).mp hmore
      rw [s.loop_of_more (h hscan more) values]
      exact ih hloop

section Printed

variable {print : α → List τ} {comma close : τ}

/-- Pieces that were printed one after the other are read back up to the end mark. -/
theorem loop_flatMap (hmore : ∀ a rest, s.scan (print a ++ rest) = .ok (([a], false), rest))
    (hlast : ∀ rest, s.scan (close :: rest) = .ok (([], true), rest))
    (values printed : List α) (rest : List τ) :
    s.loop values (printed.flatMap print ++ close :: rest) = .ok (values ++ printed, rest) := by
  induction printed generalizing values with
  | nil => exact s.loop_of_last (hlast rest) values
  | cons a printed ih =>
      rw [List.flatMap_cons, List.append_assoc, s.loop_of_more (hmore a _), ih,
        List.append_assoc, List.singleton_append]

/-- Pieces that were printed with separators are read back up to the end mark. -/
theorem loop_intercalate {first : α} {printed : List α}
    (hmore : ∀ a ∈ first :: printed, ∀ rest,
      s.scan (print a ++ comma :: rest) = .ok (([a], false), rest))
    (hlast : ∀ a ∈ first :: printed, ∀ rest,
      s.scan (print a ++ close :: rest) = .ok (([a], true), rest))
    (values : List α) (rest : List τ) :
    s.loop values ([comma].intercalate ((first :: printed).map print) ++ close :: rest) =
      .ok (values ++ first :: printed, rest) := by
  induction printed generalizing first values with
  | nil =>
      rw [List.map_singleton, List.intercalate_singleton]
      exact s.loop_of_last (hlast first List.mem_cons_self rest) values
  | cons second printed ih =>
      rw [List.map_cons, List.map_cons, List.intercalate_cons_cons, List.append_assoc,
        List.append_assoc, List.singleton_append,
        s.loop_of_more (hmore first List.mem_cons_self _), ← List.map_cons,
        ih (fun a ha => hmore a (List.mem_cons_of_mem first ha))
          (fun a ha => hlast a (List.mem_cons_of_mem first ha)),
        List.append_assoc, List.singleton_append]

end Printed

end Scanner

end VirtualDualSense.Lib.Scanners
