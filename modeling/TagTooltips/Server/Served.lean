import TagTooltips.Noted

/-! What serving a message comes to: a value, the notes taken on the way to it, and what is sent to the log
window of the client, each in order. The value depends on neither. -/

namespace TagTooltips

structure Served (α : Type) where
  value : α
  notes : List Note
  log : List LogMessage

namespace Served

variable {α β : Type}

instance : Monad Served where
  pure a := ⟨a, [], []⟩
  bind x f := ⟨(f x.value).value, x.notes ++ (f x.value).notes, x.log ++ (f x.value).log⟩

instance : MonadLift Noted Served where
  monadLift x := ⟨x.value, x.notes, []⟩

def send (m : LogMessage) : Served Unit := ⟨(), [], [m]⟩

@[simp] theorem value_pure (a : α) : (pure a : Served α).value = a := rfl

@[simp] theorem value_bind (x : Served α) (f : α → Served β) : (x >>= f).value = (f x.value).value := rfl

@[simp] theorem value_lift (x : Noted α) : (liftM x : Served α).value = x.value := rfl

@[simp] theorem log_lift (x : Noted α) : (liftM x : Served α).log = [] := rfl

@[simp] theorem log_bind (x : Served α) (f : α → Served β) :
    (x >>= f).log = x.log ++ (f x.value).log := rfl

@[simp] theorem value_map (x : Served α) (f : α → β) : (f <$> x).value = f x.value := rfl

@[simp] theorem log_map (x : Served α) (f : α → β) : (f <$> x).log = x.log := List.append_nil _

theorem value_foldlM (f : β → α → Served β) (b : β) (xs : List α) :
    (xs.foldlM f b).value = xs.foldl (fun b x => (f b x).value) b := by
  induction xs generalizing b with
  | nil => rfl
  | cons x xs ih => rw [List.foldlM_cons, value_bind, ih, List.foldl_cons]

end Served

end TagTooltips
