import TagTooltips.Json.Printer
import TagTooltips.Json.Reader

/-! String literals. A text is found again behind an opening quote, whatever follows its closing one. -/

namespace TagTooltips.Json

variable {c e : Char} {s rest : List Char}

def partsBehind? (part : Part) (rest : List Char) : Option (List Part × List Char) :=
  (parts? rest).map fun (parts, rest) => (part :: parts, rest)

theorem parts?_backslash (he : e ≠ 'u') (hc : unescape? e = some c) :
    parts? ('\x5c' :: e :: rest) = partsBehind? (.char c) rest := by
  rw [parts?, hc, partsBehind?]
  · cases parts? rest <;> rfl
  · exact fun _ _ _ _ _ hu => absurd hu he

theorem parts?_unit (hc : c.toNat < 0x20) :
    parts? ('\x5c' :: 'u' :: '0' :: '0' :: hexDigit (c.toNat / 16) :: hexDigit (c.toNat % 16) :: rest) =
      partsBehind? (.char c) rest := by
  have hunit : ∀ n < 0x20, Text.numeral? 16 ['0', '0', hexDigit (n / 16), hexDigit (n % 16)] = some n := by
    decide
  have hpart : Part.ofUnit c.toNat = .char c := by
    rw [Part.ofUnit, if_neg (by omega), Char.ofNat_toNat]
  rw [parts?, hunit _ hc, partsBehind?, ← hpart]
  cases parts? rest <;> rfl

theorem parts?_plain (hquote : c ≠ '\x22') (hbackslash : c ≠ '\x5c') (hcontrol : ¬ c.toNat < 0x20) :
    parts? (c :: rest) = partsBehind? (.char c) rest := by
  rw [parts?, if_neg hquote, if_neg (by simp [hcontrol, hbackslash]), partsBehind?]
  · cases parts? rest <;> rfl
  · exact fun _ _ _ _ _ h => absurd h hbackslash
  · exact fun _ _ h => absurd h hbackslash

theorem escape_cases (c : Char) : (∃ e, escape c = ['\x5c', e] ∧ e ≠ 'u' ∧ unescape? e = some c) ∨
    (escape c = ['\x5c', 'u', '0', '0', hexDigit (c.toNat / 16), hexDigit (c.toNat % 16)] ∧
      c.toNat < 0x20) ∨
    (escape c = [c] ∧ c ≠ '\x22' ∧ c ≠ '\x5c' ∧ ¬ c.toNat < 0x20) := by
  by_cases hletter : c ∈ ['\x22', '\x5c', '\n', '\x0d', '\t', '\x08', '\x0c']
  · refine .inl ?_
    simp only [List.mem_cons, List.not_mem_nil, or_false] at hletter
    rcases hletter with rfl | rfl | rfl | rfl | rfl | rfl | rfl <;> exact ⟨_, rfl, by decide, rfl⟩
  · simp only [List.mem_cons, List.not_mem_nil, or_false, not_or] at hletter
    obtain ⟨hquote, hbackslash, hn, hr, ht, hb, hf⟩ := hletter
    refine .inr ?_
    rw [escape, if_neg hquote, if_neg hbackslash, if_neg hn, if_neg hr, if_neg ht, if_neg hb, if_neg hf]
    by_cases hcontrol : c.toNat < 0x20
    · exact .inl ⟨if_pos hcontrol, hcontrol⟩
    · exact .inr ⟨if_neg hcontrol, hquote, hbackslash, hcontrol⟩

theorem parts?_escape (c : Char) (rest : List Char) :
    parts? (escape c ++ rest) = partsBehind? (.char c) rest := by
  rcases escape_cases c with ⟨e, hescape, he, hc⟩ | ⟨hescape, hcontrol⟩ | ⟨hescape, hquote, hbackslash, hcontrol⟩
  · rw [hescape]
    exact parts?_backslash he hc
  · rw [hescape]
    exact parts?_unit hcontrol
  · rw [hescape]
    exact parts?_plain hquote hbackslash hcontrol

theorem parts?_flatMap_escape (s rest : List Char) :
    parts? (s.flatMap escape ++ '\x22' :: rest) = some (s.map .char, rest) := by
  induction s with
  | nil => rw [List.flatMap_nil, List.nil_append, parts?, if_pos rfl, List.map_nil] <;> simp
  | cons c s ih =>
    rw [List.flatMap_cons, List.append_assoc, parts?_escape, partsBehind?, ih]
    rfl

theorem joinParts?_map_char (s : List Char) : joinParts? (s.map .char) = some s := by
  induction s with
  | nil => rfl
  | cons c s ih =>
    rw [List.map_cons, joinParts?, ih]
    rfl

theorem literal?_quote (s : String) (rest : List Char) :
    literal? (s.toList.flatMap escape ++ '\x22' :: rest) = some (some s, rest) := by
  simp only [literal?, parts?_flatMap_escape, Option.map_some, joinParts?_map_char, String.ofList_toList]

end TagTooltips.Json
