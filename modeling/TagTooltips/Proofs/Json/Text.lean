import TagTooltips.Proofs.Json.Literal

/-! Values that can be read from their own text: strings, `null`, and arrays and objects of such values. As
many steps as the text has characters are enough, and what follows the text is left. -/

namespace TagTooltips.Json

theorem skipBlanks_cons {c : Char} {s : List Char} (hc : isBlank c = false) : skipBlanks (c :: s) = c :: s :=
  List.dropWhile_cons_of_neg (by simp [hc])

/-- A value, nested at most to a depth, that is found again at the front of any text. -/
structure Legible (depth : Nat) (j : Json) : Prop where
  starts : ∃ c s, j.render = c :: s ∧ isBlank c = false ∧ c ≠ ']'
  reads : ∀ n rest, j.render.length ≤ n → value? n (j.render ++ rest) = some (j, rest)
  sound : j.isSound
  depth_le : j.depth ≤ depth

variable {depth : Nat} {j : Json} {js : List Json} {key : String} {members : List (String × Json)}

theorem Legible.length_pos (h : Legible depth j) : 0 < j.render.length := by
  obtain ⟨c, s, hrender, -⟩ := h.starts
  rw [hrender]
  exact Nat.succ_pos _

theorem Legible.skipBlanks_render (h : Legible depth j) (rest : List Char) :
    skipBlanks (j.render ++ rest) = j.render ++ rest := by
  obtain ⟨c, s, hrender, hblank, -⟩ := h.starts
  rw [hrender, List.cons_append, skipBlanks_cons hblank]

theorem legible_null : Legible depth .null where
  starts := ⟨'n', ['u', 'l', 'l'], rfl, by decide, by decide⟩
  reads n rest hn := by
    cases n with
    | zero => exact absurd hn (by decide)
    | succ n => rfl
  sound := rfl
  depth_le := Nat.zero_le _

theorem legible_string (s : String) : Legible depth (.string s) where
  starts := ⟨'\x22', _, rfl, by decide, by decide⟩
  reads n rest hn := by
    cases n with
    | zero => exact absurd hn (by simp [render, quote])
    | succ n =>
      have hliteral : literal? (s.toList.flatMap escape ++ ['\x22'] ++ rest) = some (some s, rest) := by
        rw [List.append_assoc]
        exact literal?_quote s rest
      rw [render, quote, List.cons_append, List.cons_append, value?, if_pos rfl, hliteral]
      rfl
  sound := rfl
  depth_le := Nat.zero_le _

theorem legible_ofOption (s? : Option String) : Legible depth (.ofOption s?) := by
  cases s? with
  | none => exact legible_null
  | some s => exact legible_string s

section

variable {n : Nat} {s rest behind : List Char}

theorem items?_last (h : value? n s = some (j, ']' :: rest)) : items? (n + 1) s = some ([j], rest) := by
  rw [items?, h]
  rfl

theorem items?_more (h : value? n s = some (j, ',' :: behind))
    (hbehind : items? n (skipBlanks behind) = some (js, rest)) :
    items? (n + 1) s = some (j :: js, rest) := by
  have hcomma : skipBlanks (',' :: behind) = ',' :: behind := skipBlanks_cons (by decide)
  simp only [items?, h, Option.bind_eq_bind, Option.bind_some, hcomma, hbehind, Option.pure_def]

theorem items?_render (h : Legible depth j) (hjs : ∀ k ∈ js, Legible depth k)
    (hn : (j.render ++ renderItems js).length ≤ n) (rest : List Char) :
    items? n (j.render ++ (renderItems js ++ rest)) = some (j :: js, rest) := by
  have hpos : 0 < j.render.length := h.length_pos
  rw [List.length_append] at hn
  obtain ⟨n, rfl⟩ := Nat.exists_eq_succ_of_ne_zero (n := n) (by omega)
  -- Each item takes a step of its own, and its text leaves room for it.
  induction js generalizing j n with
  | nil =>
    rw [renderItems, List.length_singleton] at hn
    exact items?_last (h.reads n _ (by omega))
  | cons k js ih =>
    have hk : Legible depth k := hjs k List.mem_cons_self
    have hkpos : 0 < k.render.length := hk.length_pos
    rw [renderItems, List.cons_append, List.length_cons, List.length_append] at hn
    obtain ⟨n, rfl⟩ := Nat.exists_eq_succ_of_ne_zero (n := n) (by omega)
    have hbehind : items? (n + 1) (skipBlanks (k.render ++ renderItems js ++ rest)) = some (k :: js, rest) := by
      rw [List.append_assoc, hk.skipBlanks_render]
      exact ih hk (fun k' hk' => hjs k' (List.mem_cons_of_mem _ hk')) hkpos n (by omega)
    exact items?_more (h.reads _ _ (by omega)) hbehind

theorem members?_last (hkey : literal? s = some (some key, ':' :: behind))
    (h : value? n (skipBlanks behind) = some (j, '}' :: rest)) :
    members? (n + 1) ('\x22' :: s) = some ([(some key, j)], rest) := by
  have hcolon : skipBlanks (':' :: behind) = ':' :: behind := skipBlanks_cons (by decide)
  have hbrace : skipBlanks ('}' :: rest) = '}' :: rest := skipBlanks_cons (by decide)
  simp only [members?, hkey, h, Option.bind_eq_bind, Option.bind_some, hcolon, hbrace, Option.pure_def]

theorem members?_more {next : List Char} {others : List (Option String × Json)}
    (hkey : literal? s = some (some key, ':' :: behind))
    (h : value? n (skipBlanks behind) = some (j, ',' :: next))
    (hnext : members? n (skipBlanks next) = some (others, rest)) :
    members? (n + 1) ('\x22' :: s) = some ((some key, j) :: others, rest) := by
  have hcolon : skipBlanks (':' :: behind) = ':' :: behind := skipBlanks_cons (by decide)
  have hcomma : skipBlanks (',' :: next) = ',' :: next := skipBlanks_cons (by decide)
  simp only [members?, hkey, h, Option.bind_eq_bind, Option.bind_some, hcolon, hcomma, hnext, Option.pure_def]

def renderMember (member : String × Json) : List Char :=
  quote member.1.toList ++ ':' :: member.2.render

theorem renderMember_append (key : String) (j : Json) (rest : List Char) : renderMember (key, j) ++ rest =
    '\x22' :: (key.toList.flatMap escape ++ '\x22' :: ':' :: (j.render ++ rest)) := by
  simp [renderMember, quote]

theorem renderMembers_cons (member : String × Json) (members : List (String × Json)) :
    renderMembers (member :: members) = ',' :: (renderMember member ++ renderMembers members) := by
  obtain ⟨key, j⟩ := member
  simp [renderMembers, renderMember]

theorem skipBlanks_renderMember (member : String × Json) (rest : List Char) :
    skipBlanks (renderMember member ++ rest) = renderMember member ++ rest := by
  rw [renderMember_append, skipBlanks_cons (by decide)]

theorem length_render_lt_renderMember (member : String × Json) :
    member.2.render.length < (renderMember member).length := by
  simp only [renderMember, List.length_append, List.length_cons]
  omega

theorem members?_render {member : String × Json} (h : Legible depth member.2)
    (hmembers : ∀ m ∈ members, Legible depth m.2)
    (hn : (renderMember member ++ renderMembers members).length ≤ n) (rest : List Char) :
    members? n (renderMember member ++ (renderMembers members ++ rest)) =
      some ((member :: members).map fun m => (some m.1, m.2), rest) := by
  have hvalue : member.2.render.length < (renderMember member).length := length_render_lt_renderMember member
  rw [List.length_append] at hn
  obtain ⟨n, rfl⟩ := Nat.exists_eq_succ_of_ne_zero (n := n) (by omega)
  -- As in an array: the text of the members behind this one leaves the steps to read its value.
  induction members generalizing member n with
  | nil =>
    obtain ⟨key, j⟩ := member
    rw [renderMembers, List.length_singleton] at hn
    rw [renderMember_append]
    refine members?_last (literal?_quote key _) ?_
    rw [h.skipBlanks_render]
    exact h.reads n _ (by omega)
  | cons next members ih =>
    obtain ⟨key, j⟩ := member
    have hnext : Legible depth next.2 := hmembers next List.mem_cons_self
    have hnextValue : next.2.render.length < (renderMember next).length := length_render_lt_renderMember next
    rw [renderMembers_cons, List.length_cons, List.length_append] at hn
    obtain ⟨n, rfl⟩ := Nat.exists_eq_succ_of_ne_zero (n := n) (by omega)
    have hothers := ih hnext (fun m hm => hmembers m (List.mem_cons_of_mem _ hm)) hnextValue n (by omega)
    have hread : value? (n + 1) (skipBlanks (j.render ++ (renderMembers (next :: members) ++ rest))) =
        some (j, ',' :: (renderMember next ++ renderMembers members ++ rest)) := by
      rw [h.skipBlanks_render, h.reads _ _ (by omega), renderMembers_cons, List.cons_append]
    rw [renderMember_append]
    refine members?_more (literal?_quote key _) hread ?_
    rw [List.append_assoc, skipBlanks_renderMember]
    exact hothers

theorem value?_array {c : Char} {t : List Char} (hc : c ≠ ']') (hskip : skipBlanks s = c :: t)
    (hitems : items? n (c :: t) = some (js, rest)) : value? (n + 1) ('[' :: s) = some (.array js, rest) := by
  rw [value?, if_neg (by decide), if_pos rfl, hskip]
  split
  · rename_i hempty
    exact absurd (List.cons.inj hempty).1 hc
  · rw [hitems]
    rfl

theorem value?_object {c : Char} {t : List Char} {keyed : List (Option String × Json)} (hc : c ≠ '}')
    (hskip : skipBlanks s = c :: t) (hmembers : members? n (c :: t) = some (keyed, rest)) :
    value? (n + 1) ('{' :: s) = some (ofKeyed keyed, rest) := by
  rw [value?, if_neg (by decide), if_neg (by decide), if_pos rfl, hskip]
  split
  · rename_i hempty
    exact absurd (List.cons.inj hempty).1 hc
  · rw [hmembers]
    rfl

end

theorem isSound_array (h : ∀ j ∈ js, j.isSound) : (Json.array js).isSound := by
  rw [isSound]
  induction js with
  | nil => rfl
  | cons j js ih =>
    rw [itemsSound, h j List.mem_cons_self, ih fun k hk => h k (List.mem_cons_of_mem _ hk)]
    rfl

theorem isSound_object (h : ∀ m ∈ members, m.2.isSound) : (Json.object members).isSound := by
  rw [isSound]
  induction members with
  | nil => rfl
  | cons m members ih =>
    rw [membersSound, h m List.mem_cons_self, ih fun k hk => h k (List.mem_cons_of_mem _ hk)]
    rfl

theorem depth_array_le (h : ∀ j ∈ js, j.depth ≤ depth) : (Json.array js).depth ≤ depth + 1 := by
  rw [Json.depth, Nat.add_le_add_iff_right]
  induction js with
  | nil => exact Nat.zero_le _
  | cons j js ih =>
    rw [depthOfItems, Nat.max_le]
    exact ⟨h j List.mem_cons_self, ih fun k hk => h k (List.mem_cons_of_mem _ hk)⟩

theorem depth_object_le (h : ∀ m ∈ members, m.2.depth ≤ depth) : (Json.object members).depth ≤ depth + 1 := by
  rw [Json.depth, Nat.add_le_add_iff_right]
  induction members with
  | nil => exact Nat.zero_le _
  | cons m members ih =>
    rw [depthOfMembers, Nat.max_le]
    exact ⟨h m List.mem_cons_self, ih fun k hk => h k (List.mem_cons_of_mem _ hk)⟩

theorem ofKeyed_map (members : List (String × Json)) :
    ofKeyed (members.map fun m => (some m.1, m.2)) = .object members := by
  have hkeys {f : Option String × Json → Option (String × Json)} (hf : ∀ m, f (some m.1, m.2) = some m) :
      (members.map fun m => (some m.1, m.2)).mapM f = some members := by
    induction members with
    | nil => rfl
    | cons m members ih =>
      rw [List.map_cons, List.mapM_cons, hf, ih]
      rfl
  rw [ofKeyed, hkeys fun _ => rfl]

theorem legible_array (h : ∀ j ∈ js, Legible depth j) : Legible (depth + 1) (.array js) where
  starts := by cases js <;> exact ⟨'[', _, rfl, by decide, by decide⟩
  reads n rest hn := by
    cases js with
    | nil =>
      cases n with
      | zero => cases hn
      | succ n => rfl
    | cons j js =>
      have hj : Legible depth j := h j List.mem_cons_self
      obtain ⟨c, s, hrender, -, hc⟩ := hj.starts
      have hskip := hj.skipBlanks_render (renderItems js ++ rest)
      cases n with
      | zero => cases hn
      | succ n =>
        rw [render, List.cons_append, List.length_cons, Nat.add_le_add_iff_right] at hn
        have hitems := items?_render hj (fun k hk => h k (List.mem_cons_of_mem _ hk)) hn rest
        rw [render, List.cons_append, List.cons_append, List.append_assoc]
        rw [hrender, List.cons_append] at hskip hitems ⊢
        exact value?_array hc hskip hitems
  sound := isSound_array fun j hj => (h j hj).sound
  depth_le := depth_array_le fun j hj => (h j hj).depth_le

theorem legible_map {α : Type} {write : α → Json} (h : ∀ a, Legible depth (write a)) (as : List α) :
    Legible (depth + 1) (.array (as.map write)) := by
  refine legible_array fun j hj => ?_
  obtain ⟨a, -, rfl⟩ := List.mem_map.mp hj
  exact h a

theorem render_object_cons (member : String × Json) (members : List (String × Json)) :
    (Json.object (member :: members)).render = '{' :: (renderMember member ++ renderMembers members) := by
  obtain ⟨key, j⟩ := member
  simp [render, renderMember]

theorem legible_object (h : ∀ m ∈ members, Legible depth m.2) : Legible (depth + 1) (.object members) where
  starts := by cases members <;> exact ⟨'{', _, rfl, by decide, by decide⟩
  reads n rest hn := by
    cases members with
    | nil =>
      cases n with
      | zero => cases hn
      | succ n => rfl
    | cons m members =>
      cases n with
      | zero => cases hn
      | succ n =>
        rw [render_object_cons] at hn ⊢
        have hskip := skipBlanks_renderMember m (renderMembers members ++ rest)
        have hmembers := members?_render (h m List.mem_cons_self)
          (fun k hk => h k (List.mem_cons_of_mem _ hk)) (Nat.le_of_succ_le_succ hn) rest
        rw [List.cons_append, List.append_assoc, ← ofKeyed_map]
        rw [renderMember_append] at hskip hmembers ⊢
        exact value?_object (by decide) hskip hmembers
  sound := isSound_object fun m hm => (h m hm).sound
  depth_le := depth_object_le fun m hm => (h m hm).depth_le

theorem Legible.ofText?_render (h : Legible depth j) : ofText? j.render = some j := by
  have hblanks : skipBlanks j.render = j.render := by simpa using h.skipBlanks_render []
  have hvalue : value? (j.render.length + 1) j.render = some (j, []) := by
    simpa using h.reads (j.render.length + 1) [] (Nat.le_succ _)
  rw [ofText?, hblanks, hvalue]
  rfl

theorem Legible.ofTextStrict?_render (h : Legible maxDepth j) : ofTextStrict? j.render = some j := by
  have hread : (j.isSound && decide (j.depth ≤ maxDepth)) = true := by
    rw [h.sound, decide_eq_true h.depth_le, Bool.and_self]
  rw [ofTextStrict?, h.ofText?_render]
  exact if_pos hread

end TagTooltips.Json
