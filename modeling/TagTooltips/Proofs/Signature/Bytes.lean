import TagTooltips.Proofs.Signature.Scan
import TagTooltips.Proofs.Text.Bytes

/-! The scan of a signature byte by byte. It looks at single bytes and never at whole characters, and every
look and every cut is checked. No check fails, and the scan finds the cut that the cursor finds. -/

namespace TagTooltips.Signature

open Text

namespace Cursor

def offset (c : Cursor) : Nat := byteLength c.left.tail

end Cursor

theorem utf8Size_opening (b : Bracket) : b.opening.utf8Size = 1 := by cases b <;> rfl

theorem utf8Size_closing (b : Bracket) : b.closing.utf8Size = 1 := by cases b <;> rfl

namespace Bytes

def seek (b : Bracket) (s : List Char) : Nat → Nat → Checked (Option Nat)
  | 0, i => .ok (some i)
  | _ + 1, 0 => .ok none
  | depth + 1, i + 1 => do
    let x ← byteAt s i
    if x = asciiByte b.closing then seek b s (depth + 2) i
    else if x = asciiByte b.opening then do
      let depth ← minus (depth + 1) 1
      seek b s depth i
    else seek b s (depth + 1) i

def skip (b : Bracket) (s : List Char) (i : Nat) : Checked (Option Nat) := do
  let x ← byteAt s i
  if x = asciiByte b.closing then seek b s 1 i else return some i

def skipAll (s : List Char) : List Bracket → Nat → Checked (Option Nat)
  | [], i => .ok (some i)
  | b :: order, i => do
    match ← skip b s i with
    | some j => skipAll s order j
    | none => return none

theorem le_of_seek {b : Bracket} {s : List Char} {depth i j : Nat} (h : seek b s depth i = .ok (some j)) :
    j ≤ i := by
  fun_induction seek b s depth i with
  | case1 i =>
    cases h
    exact Nat.le_refl _
  | case2 depth => cases h
  | case3 depth i closed opened other =>
    obtain ⟨x, -, h⟩ := Checked.bind_eq_ok_iff.mp h
    split at h
    · exact Nat.le_succ_of_le (closed h)
    · split at h
      · obtain ⟨depth, -, h⟩ := Checked.bind_eq_ok_iff.mp h
        exact Nat.le_succ_of_le (opened _ h)
      · exact Nat.le_succ_of_le (other h)

theorem le_of_skipAll {s : List Char} {order : List Bracket} {i j : Nat}
    (h : skipAll s order i = .ok (some j)) : j ≤ i := by
  induction order generalizing i with
  | nil =>
    cases h
    exact Nat.le_refl _
  | cons b order ih =>
    obtain ⟨found, hskip, h⟩ := Checked.bind_eq_ok_iff.mp h
    cases found with
    | none => cases h
    | some k =>
      refine Nat.le_trans (ih h) ?_
      obtain ⟨x, -, hskip⟩ := Checked.bind_eq_ok_iff.mp hskip
      split at hskip
      · exact le_of_seek hskip
      · cases hskip
        exact Nat.le_refl _

def scan (order : List Bracket) (s : List Char) (stop i : Nat) : Checked (List Char) :=
  match _hskip : skipAll s order i with
  | .error fault => .error fault
  | .ok none => slice 0 stop s
  | .ok (some j) => do
    let x ← byteAt s j
    if x = asciiByte '.' then slice (j + 1) stop s
    else if j = 0 then slice 0 stop s
    else
      match _hminus : minus j 1 with
      | .error fault => .error fault
      | .ok k => scan order s stop k
termination_by i
decreasing_by
  have := le_of_skipAll _hskip
  have := add_of_minus _hminus
  omega

def shortNameTrying (order : List Bracket) (s : List Char) (index : Nat) : Checked (List Char) :=
  if s = [] then .ok [] else do
    let stop ← charEnd s index
    let i ← minus stop 1
    scan order s stop i

def shortNameUpTo (s : List Char) (index : Nat) : Checked (List Char) :=
  if s = [] then .ok [] else do
    let stop ← charEnd s index
    let i ← minus stop 1
    scan Bracket.all s stop i

def shortName (s : List Char) : Checked (List Char) :=
  if byteLength s = 0 then .ok [] else do
    let index ← minus (byteLength s) 1
    shortNameUpTo s index

def memberName (s : List Char) : Checked (List Char) := do
  let member ← shortName s
  if byteLength member = byteLength s then return member
  match minus? (byteLength s) (byteLength member + 2) with
  | some index => do
    let owner ← shortNameUpTo s index
    return owner ++ '.' :: member
  | none => return member

variable {b : Bracket} {order : List Bracket} {a t left right post : List Char} {depth k stop i j : Nat}
  {x : Char} {y : UInt8} {s : List Char} {c : Cursor}

theorem scan_of_none (hskip : skipAll s order i = .ok none) : scan order s stop i = slice 0 stop s := by
  rw [scan]
  split <;> simp_all

theorem scan_of_some (hskip : skipAll s order i = .ok (some j)) (hbyte : byteAt s j = .ok y) :
    scan order s stop i = if y = asciiByte '.' then slice (j + 1) stop s
      else if j = 0 then slice 0 stop s else scan order s stop (j - 1) := by
  rw [scan]
  split
  · simp_all
  · simp_all
  · rename_i j' hskip'
    obtain rfl : j = j' := by simpa [hskip] using hskip'
    rw [hbyte, Checked.ok_bind]
    refine if_congr Iff.rfl rfl ?_
    by_cases hj : j = 0
    · rw [if_pos hj, if_pos hj]
    · have hminus : minus j 1 = .ok (j - 1) := minus_of_le (by omega)
      rw [if_neg hj, if_neg hj]
      split <;> simp_all

theorem exists_byteAt_offset (x : Char) (left right post : List Char) :
    ∃ y, byteAt (Cursor.text ⟨x :: left, right⟩ ++ post) (Cursor.offset ⟨x :: left, right⟩) = .ok y ∧
      ∀ z : Char, z.utf8Size = 1 → (y = asciiByte z ↔ x = z) := by
  have hoffset : Cursor.offset ⟨x :: left, right⟩ = byteLength left.reverse + 0 :=
    (byteLength_reverse left).symm
  rw [Cursor.text_append, hoffset]
  exact exists_byteAt _ _ x.utf8Size_pos

theorem seek_within (hclosing : x ≠ b.closing) (hopening : x ≠ b.opening) (hk : k ≤ x.utf8Size) :
    seek b (a ++ x :: t) (depth + 1) (byteLength a + k) =
      seek b (a ++ x :: t) (depth + 1) (byteLength a) := by
  induction k with
  | zero => rfl
  | succ k ih =>
    obtain ⟨y, hbyte, hy⟩ := exists_byteAt a t hk
    have hclosing' : y ≠ asciiByte b.closing := mt (hy _ (utf8Size_closing b)).mp hclosing
    have hopening' : y ≠ asciiByte b.opening := mt (hy _ (utf8Size_opening b)).mp hopening
    rw [← Nat.add_assoc, seek, hbyte, Checked.ok_bind, if_neg hclosing', if_neg hopening']
    exact ih (Nat.le_of_lt hk)

theorem seek_char (b : Bracket) (depth : Nat) (a t : List Char) (x : Char) :
    seek b (a ++ x :: t) (depth + 1) (byteLength a + x.utf8Size) =
      seek b (a ++ x :: t) (b.depthLeft (depth + 1) x) (byteLength a) := by
  obtain ⟨y, hbyte, hy⟩ := exists_byteAt a t x.utf8Size_pos
  rw [Nat.add_zero] at hbyte
  by_cases hclosing : x = b.closing
  · have hsize : x.utf8Size = 1 := hclosing ▸ utf8Size_closing b
    rw [hsize, seek, hbyte, Checked.ok_bind, if_pos ((hy _ (utf8Size_closing b)).mpr hclosing),
      Bracket.depthLeft, if_pos hclosing]
  · by_cases hopening : x = b.opening
    · have hsize : x.utf8Size = 1 := hopening ▸ utf8Size_opening b
      rw [hsize, seek, hbyte, Checked.ok_bind, if_neg (mt (hy _ (utf8Size_closing b)).mp hclosing),
        if_pos ((hy _ (utf8Size_opening b)).mpr hopening), minus_of_le (Nat.le_add_left 1 depth),
        Checked.ok_bind, Bracket.depthLeft, if_neg hclosing, if_pos hopening]
    · rw [seek_within hclosing hopening (Nat.le_refl _), Bracket.depthLeft, if_neg hclosing, if_neg hopening]

theorem seek_eq (b : Bracket) (depth : Nat) (left right rest : List Char) :
    seek b (left.reverse ++ rest) (depth + 1) (byteLength left) =
      .ok ((Cursor.seek b (depth + 1) left right).map Cursor.offset) := by
  induction left generalizing depth right rest with
  | nil => rfl
  | cons x left ih =>
    rw [List.reverse_cons, List.append_assoc, List.singleton_append, byteLength_cons,
      Nat.add_comm x.utf8Size, ← byteLength_reverse left, seek_char, byteLength_reverse, Cursor.seek]
    cases b.depthLeft (depth + 1) x with
    | zero => rw [if_pos rfl, seek, Option.map_some, Cursor.offset, List.tail_cons]
    | succ depth =>
      rw [if_neg (Nat.succ_ne_zero depth)]
      exact ih depth _ _

theorem skip_eq (b : Bracket) (post : List Char) (hc : c.left ≠ []) :
    skip b (c.text ++ post) c.offset = .ok ((c.skip b).map Cursor.offset) := by
  obtain ⟨left, right⟩ := c
  obtain ⟨x, left, rfl⟩ := List.exists_cons_of_ne_nil hc
  obtain ⟨y, hbyte, hy⟩ := exists_byteAt_offset x left right post
  rw [skip, hbyte, Checked.ok_bind]
  by_cases hclosing : x = b.closing
  · rw [if_pos ((hy _ (utf8Size_closing b)).mpr hclosing), Cursor.text_append, hclosing, Cursor.skip_closing]
    exact seek_eq b 0 left _ _
  · rw [if_neg (mt (hy _ (utf8Size_closing b)).mp hclosing), Cursor.skip_of_ne hclosing]
    rfl

theorem skipAll_eq (order : List Bracket) (post : List Char) (hc : c.left ≠ []) :
    skipAll (c.text ++ post) order c.offset = .ok ((c.skipAll order).map Cursor.offset) := by
  induction order generalizing c with
  | nil => rfl
  | cons b order ih =>
    rw [skipAll, skip_eq b post hc, Checked.ok_bind, Cursor.skipAll_cons]
    cases hskip : c.skip b with
    | none => rfl
    | some d =>
      obtain ⟨htext, hd⟩ := Cursor.of_skip hc hskip
      rw [← htext]
      exact ih hd

theorem skipAll_of_ne (hbyte : byteAt s i = .ok y) (hy : ∀ b : Bracket, y ≠ asciiByte b.closing) :
    skipAll s order i = .ok (some i) := by
  induction order with
  | nil => rfl
  | cons b order ih =>
    rw [skipAll, skip, hbyte, Checked.ok_bind, if_neg (hy b)]
    exact ih

theorem scan_within (hk : k < x.utf8Size) :
    scan order (a ++ x :: t) stop (byteLength a + k) = scan order (a ++ x :: t) stop (byteLength a) := by
  induction k with
  | zero => rfl
  | succ k ih =>
    -- A character with a second byte is not in ASCII, and none of its bytes is.
    obtain ⟨y, hbyte, hy⟩ := exists_byteAt a t hk
    have hne (z : Char) (hz : z.utf8Size = 1) : y ≠ asciiByte z := by
      rw [ne_eq, hy z hz]
      rintro rfl
      omega
    rw [scan_of_some (skipAll_of_ne hbyte fun b => hne _ (utf8Size_closing b)) hbyte, if_neg (hne '.' rfl),
      if_neg (by omega)]
    exact ih (Nat.lt_of_succ_lt hk)

theorem scan_last_byte (order : List Bracket) (stop : Nat) (x : Char) (left right post : List Char) :
    scan order (Cursor.text ⟨x :: left, right⟩ ++ post) stop (byteLength (x :: left) - 1) =
      scan order (Cursor.text ⟨x :: left, right⟩ ++ post) stop (Cursor.offset ⟨x :: left, right⟩) := by
  have := x.utf8Size_pos
  have hlast : byteLength (x :: left) - 1 = byteLength left.reverse + (x.utf8Size - 1) := by
    rw [byteLength_cons, byteLength_reverse]
    omega
  rw [Cursor.text_append, hlast, scan_within (by omega), byteLength_reverse]
  rfl

theorem slice_behind_dot (left right post : List Char) :
    slice (Cursor.offset ⟨'.' :: left, right⟩ + 1) (byteLength (Cursor.text ⟨'.' :: left, right⟩))
      (Cursor.text ⟨'.' :: left, right⟩ ++ post) = .ok right := by
  have hstart : Cursor.offset ⟨'.' :: left, right⟩ + 1 = byteLength ('.' :: left).reverse := by
    rw [byteLength_reverse, byteLength_cons, Nat.add_comm]
    rfl
  rw [hstart]
  exact slice_append _ right post

theorem scan_eq (order : List Bracket) (post : List Char) (hc : c.left ≠ []) :
    scan order (c.text ++ post) (byteLength c.text) c.offset = .ok ((cutFrom order c).shown c.text) := by
  have hwhole (c : Cursor) : slice 0 (byteLength c.text) (c.text ++ post) = .ok c.text :=
    slice_append [] c.text post
  -- The induction is that of the cursor; the offset stays that of the character under it.
  fun_induction cutFrom order c with
  | case1 c hskip =>
    have hskip' := skipAll_eq order post hc
    rw [hskip] at hskip'
    rw [scan_of_none hskip']
    exact hwhole c
  | case2 c right hskip => exact absurd rfl (Cursor.of_skipAll hc hskip).2
  | case3 c left right hskip =>
    have hskip' := skipAll_eq order post hc
    obtain ⟨y, hbyte, hy⟩ := exists_byteAt_offset '.' left right post
    rw [hskip, ← (Cursor.of_skipAll hc hskip).1] at hskip'
    rw [← (Cursor.of_skipAll hc hskip).1, scan_of_some hskip' hbyte, if_pos ((hy '.' rfl).mpr rfl)]
    exact slice_behind_dot left right post
  | case4 c x left right hskip hdot ih =>
    have hskip' := skipAll_eq order post hc
    obtain ⟨y, hbyte, hy⟩ := exists_byteAt_offset x left right post
    rw [hskip, ← (Cursor.of_skipAll hc hskip).1] at hskip'
    rw [← (Cursor.of_skipAll hc hskip).1, scan_of_some hskip' hbyte, if_neg (mt (hy '.' rfl).mp hdot)]
    cases left with
    | nil =>
      rw [cutFrom_nil]
      exact (if_pos rfl).trans (hwhole _)
    | cons z left =>
      have hnext : Cursor.text ⟨x :: z :: left, right⟩ = Cursor.text ⟨z :: left, x :: right⟩ := by
        simp [Cursor.text]
      have hpos : Cursor.offset ⟨x :: z :: left, right⟩ ≠ 0 := by
        have := byteLength_pos (List.cons_ne_nil z left)
        exact Nat.ne_of_gt this
      -- One byte to the left is the last byte of the next character, which the walk crosses first.
      rw [if_neg hpos, hnext]
      exact (scan_last_byte order _ z left (x :: right) post).trans (ih (List.cons_ne_nil z left))

theorem scan_append (horder : ∀ b, b ∈ order) (hs : s ≠ []) (post : List Char) :
    scan order (s ++ post) (byteLength s) (byteLength s - 1) = .ok (Signature.shortName s).value := by
  obtain ⟨x, left, hreverse⟩ := List.exists_cons_of_ne_nil (mt List.reverse_eq_nil_iff.mp hs)
  have hlast : byteLength s = byteLength (x :: left) := by rw [← hreverse, byteLength_reverse]
  obtain rfl : s = Cursor.text ⟨x :: left, []⟩ := by
    rw [Cursor.text, ← hreverse, List.reverse_reverse, List.append_nil]
  have hcut : cutFrom order ⟨x :: left, []⟩ = cut (Cursor.text ⟨x :: left, []⟩) := by
    rw [cutFrom_of_mem horder, cut, Cursor.ofEnd, hreverse]
  calc scan order (_ ++ post) _ (byteLength _ - 1)
      = scan order (_ ++ post) _ (Cursor.offset ⟨x :: left, []⟩) := by
        rw [hlast]
        exact scan_last_byte order _ x left [] post
    _ = .ok ((cutFrom order ⟨x :: left, []⟩).shown _) := scan_eq order post (List.cons_ne_nil x left)
    _ = _ := by
        rw [hcut]
        rfl

theorem value_shortName_nil : (Signature.shortName []).value = [] := by
  have hcut : cut [] = .whole := cutFrom_nil
  rw [shortName_of_cut hcut (by decide)]
  rfl

theorem shortNameTrying_eq (horder : ∀ b, b ∈ order) (s : List Char) (index : Nat) :
    shortNameTrying order s index = .ok (Signature.shortNameUpTo s index).value := by
  rw [shortNameTrying, Signature.shortNameUpTo]
  by_cases hs : s = []
  · rw [if_pos hs, hs, covering, value_shortName_nil]
  · have hcovering : covering Char.utf8Size (index + 1) s ≠ [] := by
      obtain ⟨c, s, rfl⟩ := List.exists_cons_of_ne_nil hs
      rw [covering, if_neg (Nat.succ_ne_zero index)]
      exact List.cons_ne_nil _ _
    obtain ⟨post, hpost⟩ := covering_prefix (index + 1) s
    rw [if_neg hs, charEnd_eq, Checked.ok_bind, minus_of_le (byteLength_pos hcovering), Checked.ok_bind]
    generalize covering Char.utf8Size (index + 1) s = upTo at hcovering hpost ⊢
    subst hpost
    exact scan_append horder hcovering post

theorem shortNameUpTo_eq (s : List Char) (index : Nat) :
    shortNameUpTo s index = .ok (Signature.shortNameUpTo s index).value :=
  shortNameTrying_eq Bracket.mem_all s index

theorem shortName_eq (s : List Char) : shortName s = .ok (Signature.shortName s).value := by
  rw [shortName]
  by_cases hs : s = []
  · rw [hs, value_shortName_nil]
    rfl
  · have hpos : 1 ≤ byteLength s := byteLength_pos hs
    rw [if_neg (Nat.ne_of_gt hpos), minus_of_le hpos, Checked.ok_bind, shortNameUpTo_eq,
      Signature.shortNameUpTo, Nat.sub_add_cancel hpos, covering_of_byteLength_le (Nat.le_refl _)]

theorem memberName_eq (s : List Char) : memberName s = .ok (Signature.memberName s).value := by
  rw [memberName, shortName_eq, Checked.ok_bind, Signature.memberName, Noted.value_bind]
  generalize (Signature.shortName s).value = member
  dsimp only
  by_cases hwhole : byteLength member = byteLength s
  · rw [if_pos hwhole, if_pos hwhole]
    rfl
  · rw [if_neg hwhole, if_neg hwhole, minus?]
    by_cases howner : byteLength member + 2 ≤ byteLength s
    · rw [if_pos howner, if_pos howner]
      dsimp only
      rw [shortNameUpTo_eq]
      rfl
    · rw [if_neg howner, if_neg howner]
      rfl

end Bytes

end TagTooltips.Signature
