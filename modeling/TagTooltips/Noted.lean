import TagTooltips.Note

/-! A value together with the notes taken on the way to it, in order. The value never depends on
the notes: `value_bind` and `value_mapM` let a proof forget them. -/

namespace TagTooltips

structure Noted (α : Type) where
  value : α
  notes : List Note

namespace Noted

variable {α β : Type}

instance : Monad Noted where
  pure a := ⟨a, []⟩
  bind x f := ⟨(f x.value).value, x.notes ++ (f x.value).notes⟩

def note (n : Note) : Noted Unit := ⟨(), [n]⟩

def noteIf (condition : Bool) (n : Note) : Noted Unit := ⟨(), if condition then [n] else []⟩

@[simp] theorem value_pure (a : α) : (pure a : Noted α).value = a := rfl

@[simp] theorem notes_pure (a : α) : (pure a : Noted α).notes = [] := rfl

@[simp] theorem value_bind (x : Noted α) (f : α → Noted β) : (x >>= f).value = (f x.value).value := rfl

@[simp] theorem notes_bind (x : Noted α) (f : α → Noted β) :
    (x >>= f).notes = x.notes ++ (f x.value).notes := rfl

@[simp] theorem value_map (x : Noted α) (f : α → β) : (f <$> x).value = f x.value := rfl

@[simp] theorem notes_map (x : Noted α) (f : α → β) : (f <$> x).notes = x.notes :=
  List.append_nil _

theorem ext {x y : Noted α} (hv : x.value = y.value) (hn : x.notes = y.notes) : x = y := by
  cases x; cases y; simp_all

instance : LawfulMonad Noted := LawfulMonad.mk' Noted
  (fun _ => Noted.ext rfl (by simp [Functor.map]))
  (fun _ _ => Noted.ext rfl (by simp))
  (fun _ _ _ => Noted.ext rfl (by simp))

@[simp] theorem value_mapM (f : α → Noted β) (xs : List α) :
    (xs.mapM f).value = xs.map fun x => (f x).value := by
  induction xs with
  | nil => rfl
  | cons x xs ih => rw [List.mapM_cons]; simp [ih]

end Noted

end TagTooltips
