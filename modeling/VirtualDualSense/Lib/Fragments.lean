import Mathlib.Algebra.Order.Ring.Int
import Mathlib.Data.List.Basic

/-!
# Streams in fragments

A stream arrives in fragments. One read returns what is at hand, up to a limit; a
reader that needs more reads again.
-/

namespace VirtualDualSense.Lib.Fragments

variable {α : Type*} {limit : Nat} {stream rest : List (List α)} {got : List α}

/-- Read at most `limit` items of the next fragment that has any. -/
def readSome (limit : Nat) : List (List α) → Option (List α × List (List α))
  | [] => none
  | [] :: rest => readSome limit rest
  | (item :: items) :: rest =>
      some ((item :: items).take limit, (item :: items).drop limit :: rest)

/-- A read takes a part of the front of the stream. -/
theorem readSome_eq_some (h : readSome limit stream = some (got, rest)) :
    got.length ≤ limit ∧ stream.flatten = got ++ rest.flatten := by
  induction stream with
  | nil => cases h
  | cons fragment others ih =>
      cases fragment with
      | nil => exact ih h
      | cons item items =>
          obtain ⟨rfl, rfl⟩ := Prod.mk.inj (Option.some.inj h)
          refine ⟨List.length_take_le _ _, ?_⟩
          rw [List.flatten_cons, List.flatten_cons, ← List.append_assoc, List.take_append_drop]

theorem length_pos_of_readSome (hlimit : 0 < limit)
    (h : readSome limit stream = some (got, rest)) : 0 < got.length := by
  induction stream with
  | nil => cases h
  | cons fragment others ih =>
      cases fragment with
      | nil => exact ih h
      | cons item items =>
          obtain ⟨rfl, -⟩ := Prod.mk.inj (Option.some.inj h)
          rw [List.length_take, List.length_cons]
          omega

/-- Only an empty stream has nothing to read. -/
theorem readSome_eq_none (h : readSome limit stream = none) : stream.flatten = [] := by
  induction stream with
  | nil => rfl
  | cons fragment others ih =>
      cases fragment with
      | nil => exact ih h
      | cons item items => cases h

/-- Read until `remaining` items are there. Each time as many are asked for as `request`
says, and a request for none ends in an error. -/
def readExact (request : Nat → Nat) (remaining : Nat) (stream : List (List α)) :
    Option (List α × List (List α)) :=
  if remaining = 0 then some ([], stream)
  else
    match readSome (request remaining) stream with
    | none => none
    | some (got, rest) =>
        if 0 < got.length then
          (readExact request (remaining - got.length) rest).map fun (more, rest) =>
            (got ++ more, rest)
        else none
termination_by remaining

section ReadExact

variable {request : Nat → Nat} {remaining : Nat}

/-- A successful read takes exactly what was asked for from the front of the stream. -/
theorem readExact_eq_some (hrequest : ∀ n, request n ≤ n)
    (h : readExact request remaining stream = some (got, rest)) :
    got.length = remaining ∧ stream.flatten = got ++ rest.flatten := by
  induction remaining using Nat.strong_induction_on generalizing stream got with
  | _ remaining ih =>
      rw [readExact] at h
      split at h
      · rename_i hzero
        obtain ⟨rfl, rfl⟩ := Prod.mk.inj (Option.some.inj h)
        exact ⟨hzero.symm, rfl⟩
      · split at h
        · cases h
        · rename_i first others hread
          split at h
          · rename_i hfirst
            obtain ⟨⟨more, last⟩, hmore, heq⟩ := Option.map_eq_some_iff.mp h
            obtain ⟨rfl, rfl⟩ := Prod.mk.inj heq
            obtain ⟨hlength, hstream⟩ := readSome_eq_some hread
            obtain ⟨hmoreLength, hothers⟩ := ih _ (by omega) hmore
            have hle := hrequest remaining
            refine ⟨?_, ?_⟩
            · rw [List.length_append, hmoreLength]
              omega
            · rw [hstream, hothers, List.append_assoc]
          · cases h

/-- Requests that are never empty get what the stream has. -/
theorem readExact_isSome (hrequest : ∀ n ≤ remaining, 0 < n → 0 < request n ∧ request n ≤ n)
    (hstream : remaining ≤ stream.flatten.length) :
    (readExact request remaining stream).isSome = true := by
  induction remaining using Nat.strong_induction_on generalizing stream with
  | _ remaining ih =>
      rw [readExact]
      split
      · rfl
      · rename_i hpos
        obtain ⟨hasked, hle⟩ := hrequest remaining le_rfl (by omega)
        split
        · rename_i hnone
          rw [readSome_eq_none hnone, List.length_nil] at hstream
          omega
        · rename_i first others hread
          obtain ⟨hlength, hfront⟩ := readSome_eq_some hread
          have hfirst := length_pos_of_readSome hasked hread
          rw [if_pos hfirst, Option.isSome_map]
          apply ih _ (by omega)
          · intro n hn
            exact hrequest n (by omega)
          · rw [hfront, List.length_append] at hstream
            omega

/-- A reader whose requests never pass a barrier does not get behind it. -/
theorem readExact_eq_none {barrier : Nat} (hbarrier : 0 < barrier)
    (hrequest : ∀ n, barrier ≤ n → barrier + request n ≤ n) (h : barrier ≤ remaining) :
    readExact request remaining stream = none := by
  induction remaining using Nat.strong_induction_on generalizing stream with
  | _ remaining ih =>
      rw [readExact, if_neg (by omega)]
      split
      · rfl
      · rename_i first others hread
        split
        · obtain ⟨hlength, -⟩ := readSome_eq_some hread
          have hasked := hrequest remaining h
          rw [ih _ (by omega) (by omega), Option.map_none]
        · rfl

end ReadExact

section Numbered

variable {numbered : List (Nat × List α)} {fragment : Nat → List α} {start count : Nat}

/-- Fragments that were listed in the order of their numbers. -/
theorem flatMap_range'_eq (hsorted : numbered.Pairwise fun a b => a.1 < b.1)
    (hrange : ∀ entry ∈ numbered, start ≤ entry.1 ∧ entry.1 < start + count)
    (hlisted : ∀ entry ∈ numbered, fragment entry.1 = entry.2)
    (hother : ∀ number, start ≤ number → (∀ entry ∈ numbered, entry.1 ≠ number) →
      fragment number = []) :
    (List.range' start count).flatMap fragment = numbered.flatMap Prod.snd := by
  induction count generalizing start numbered with
  | zero =>
      cases numbered with
      | nil => rfl
      | cons entry rest =>
          have hentry := hrange entry List.mem_cons_self
          omega
  | succ count ih =>
      rw [List.range'_succ, List.flatMap_cons]
      by_cases hfirst : ∃ entry rest, numbered = entry :: rest ∧ entry.1 = start
      · obtain ⟨entry, rest, rfl, rfl⟩ := hfirst
        obtain ⟨hlater, hrest⟩ := List.pairwise_cons.mp hsorted
        have htail : (List.range' (entry.1 + 1) count).flatMap fragment =
            rest.flatMap Prod.snd := by
          refine ih hrest ?_ ?_ ?_
          · intro other hmem
            have hbounds := hrange other (List.mem_cons_of_mem _ hmem)
            exact ⟨hlater other hmem, by omega⟩
          · exact fun other hmem => hlisted other (List.mem_cons_of_mem _ hmem)
          · intro number hnumber hnone
            refine hother number (by omega) fun other hmem => ?_
            rcases List.mem_cons.mp hmem with rfl | hmem
            · omega
            · exact hnone other hmem
        rw [List.flatMap_cons, hlisted entry List.mem_cons_self, htail]
      · have hlater : ∀ entry ∈ numbered, start < entry.1 := by
          cases numbered with
          | nil => exact fun entry hmem => absurd hmem List.not_mem_nil
          | cons first rest =>
              have hle := (hrange first List.mem_cons_self).1
              have hlt := hle.lt_of_ne fun heq => hfirst ⟨first, rest, rfl, heq.symm⟩
              intro entry hmem
              rcases List.mem_cons.mp hmem with rfl | hmem
              · exact hlt
              · exact hlt.trans ((List.pairwise_cons.mp hsorted).1 entry hmem)
        have hnone : fragment start = [] :=
          hother start le_rfl fun entry hmem => (hlater entry hmem).ne'
        rw [hnone, List.nil_append]
        refine ih hsorted ?_ hlisted ?_
        · intro entry hmem
          have hbounds := hrange entry hmem
          exact ⟨hlater entry hmem, by omega⟩
        · exact fun number hnumber => hother number (by omega)

/-- Entries of which an earlier one is chosen with every later one. -/
theorem filter_front {p : α → Bool} {items : List α}
    (h : items.Pairwise fun a b => p b = true → p a = true) : items.filter p <+: items := by
  induction items with
  | nil => exact List.prefix_rfl
  | cons item rest ih =>
      obtain ⟨hitem, hrest⟩ := List.pairwise_cons.mp h
      cases hp : p item with
      | true =>
          rw [List.filter_cons_of_pos hp]
          exact (List.prefix_cons_inj item).mpr (ih hrest)
      | false =>
          have hnone : rest.filter p = [] := by
            refine List.filter_eq_nil_iff.mpr fun other hother hchosen => ?_
            rw [hitem other hother hchosen] at hp
            cases hp
          rw [List.filter_cons_of_neg (by rw [hp]; exact Bool.false_ne_true), hnone]
          exact List.nil_prefix

end Numbered

end VirtualDualSense.Lib.Fragments
