import Mathlib.Data.List.Count
import Mathlib.Logic.Equiv.Basic
import TagTooltips.Proofs.Signature.Member
import TagTooltips.Proofs.Signature.Uncut

/-! Angle brackets and braces exchanged. A scan treats all families of brackets alike, so the cut of a signature and
the names that are made of it are those of the signature before the exchange, with the same brackets exchanged. -/

namespace TagTooltips.Signature

open Signature.Bracket

def Bracket.exchanged : Bracket → Bracket
  | angle => brace
  | round => round
  | brace => angle

def exchange : Equiv.Perm Char := (Equiv.swap '<' '{').trans (Equiv.swap '>' '}')

def Cut.exchanged : Cut → Cut
  | .dot owner name => .dot (owner.map exchange) (name.map exchange)
  | .whole => .whole
  | .unbalanced => .unbalanced

variable {s inside : List Char} {b : Bracket} {c : Char}

theorem exchange_opening (b : Bracket) : exchange b.opening = b.exchanged.opening := by cases b <;> decide

theorem exchange_closing (b : Bracket) : exchange b.closing = b.exchanged.closing := by cases b <;> decide

theorem exchanged_exchanged (b : Bracket) : b.exchanged.exchanged = b := by cases b <;> rfl

theorem exchange_dot : exchange '.' = '.' := by decide

theorem exchange_cases (hbrace : c ≠ '{' ∧ c ≠ '}') :
    c = '<' ∧ exchange c = '{' ∨ c = '>' ∧ exchange c = '}' ∨ c ≠ '<' ∧ c ≠ '>' ∧ exchange c = c := by
  by_cases hleft : c = '<'
  · exact .inl ⟨hleft, hleft ▸ exchange_opening angle⟩
  · by_cases hright : c = '>'
    · exact .inr (.inl ⟨hright, hright ▸ exchange_closing angle⟩)
    · have hopening : Equiv.swap '<' '{' c = c := Equiv.swap_apply_of_ne_of_ne hleft hbrace.1
      have hclosing : Equiv.swap '>' '}' c = c := Equiv.swap_apply_of_ne_of_ne hright hbrace.2
      refine .inr (.inr ⟨hleft, hright, ?_⟩)
      rw [exchange, Equiv.trans_apply, hopening, hclosing]

theorem exchange_ne_dot (hc : c ≠ '.') : exchange c ≠ '.' := by
  rw [← exchange_dot]
  exact exchange.injective.ne hc

theorem exchange_ne_closing (hc : ∀ b : Bracket, c ≠ b.closing) (b : Bracket) : exchange c ≠ b.closing := by
  have hclosing : exchange b.exchanged.closing = b.closing := by rw [exchange_closing, exchanged_exchanged]
  rw [← hclosing]
  exact exchange.injective.ne (hc b.exchanged)

theorem count_exchange (s : List Char) (x : Char) : (s.map exchange).count (exchange x) = s.count x :=
  List.count_map_of_injective s exchange exchange.injective x

theorem Bracket.Paired.exchange (h : b.Paired s) : b.exchanged.Paired (s.map exchange) := by
  intro v hv
  obtain ⟨w, hw, rfl⟩ := List.suffix_map_iff.mp hv
  rw [← exchange_opening, ← exchange_closing, count_exchange, count_exchange]
  exact h w hw

theorem Bracket.Balanced.exchange (h : b.Balanced s) : b.exchanged.Balanced (s.map exchange) := by
  refine ⟨h.1.exchange, ?_⟩
  rw [← exchange_opening, ← exchange_closing, count_exchange, count_exchange]
  exact h.2

theorem Uncut.exchange (h : Uncut s) : Uncut (s.map exchange) := by
  induction h with
  | nil => exact .nil
  | plain hdot hc _ ih => exact .plain (exchange_ne_dot hdot) (exchange_ne_closing hc) ih
  | group b hi _ ih =>
    rw [List.map_cons, List.map_append, List.map_cons, exchange_opening, exchange_closing]
    exact .group b.exchanged hi.exchange ih

theorem cut_exchange (s : List Char) : cut (s.map exchange) = (cut s).exchanged := by
  cases hcut : cut s with
  | dot owner name =>
    obtain ⟨hs, hname⟩ := cut_eq_dot_iff.mp hcut
    refine cut_eq_dot_iff.mpr ⟨?_, hname.exchange⟩
    rw [hs, List.map_append, List.map_cons, exchange_dot]
  | whole => exact cut_eq_whole_iff.mpr (cut_eq_whole_iff.mp hcut).exchange
  | unbalanced =>
    obtain ⟨b, before, t, hs, hpaired, ht⟩ := cut_eq_unbalanced_iff.mp hcut
    refine cut_eq_unbalanced_iff.mpr ⟨b.exchanged, before.map exchange, t.map exchange, ?_, hpaired.exchange,
      ht.exchange⟩
    rw [hs, List.map_append, List.map_cons, exchange_closing]

theorem shortName_exchange (s : List Char) :
    shortName (s.map exchange) = (List.map exchange) <$> shortName s := by
  have hcut := cut_exchange s
  refine Noted.ext ?_ ?_
  · rw [Noted.value_map, value_shortName, value_shortName, hcut]
    cases cut s <;> rfl
  · rw [Noted.notes_map]
    simp only [shortName, hcut, Noted.notes_bind, Noted.notes_pure]
    cases cut s <;> rfl

theorem memberName_exchange (s : List Char) :
    memberName (s.map exchange) = (List.map exchange) <$> memberName s := by
  rcases value_shortName_cases s with ⟨owner, hdot⟩ | hwhole
  · have hcut := cut_exchange s
    rw [hdot] at hcut
    rw [memberName_of_dot hcut, memberName_of_dot hdot]
    by_cases howner : owner = []
    · rw [if_pos howner, if_pos (by rw [howner, List.map_nil]), map_pure]
    · rw [if_neg howner, if_neg (mt List.map_eq_nil_iff.mp howner), shortName_exchange]
      simp only [Functor.map_map, List.map_append, List.map_cons, exchange_dot]
  · have hwhole' : (shortName (s.map exchange)).value = s.map exchange := by
      rw [shortName_exchange, Noted.value_map, hwhole]
    rw [memberName_of_whole hwhole', memberName_of_whole hwhole, shortName_exchange]

end TagTooltips.Signature
