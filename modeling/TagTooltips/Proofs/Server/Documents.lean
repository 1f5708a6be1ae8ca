import TagTooltips.Proofs.Lookup
import TagTooltips.Proofs.Server.Call
import TagTooltips.Proofs.Server.Resolution

/-! Open documents. What a server answers about a document depends on the text that the calls about it have
left, and on the store; how it came to that text, and what it did with other documents, does not
show. -/

namespace TagTooltips

open Server

/-- What a call makes of the text of a document that is open or not. A change brings whole texts, of
which the last one stays; it does not open a document. -/
def Call.textAfter (uri : String) (text : Option String) : Call → Option String
  | .opened other new => if uri = other then some new else text
  | .changed other texts => if uri = other then text.map fun old => texts.getLast?.getD old else text
  | .closed other => if uri = other then none else text
  | _ => text

/-- A call that leaves alone what a server knows of a document: it reads, it is about another document, or
it changes one that is not open. -/
def Call.Spares (uri : String) (s : Server) : Call → Prop
  | .opened other _ | .closed other => other ≠ uri
  | .changed other _ => other ≠ uri ∨ s.document? other = none
  | .projectChanged _ | .projectRemoved _ => False
  | _ => True

namespace Server

variable {read : Reader} {m : Message} {s s' : Server} {call : Call}
  {uri other : String} {text : Option String} {d : Document}

theorem document?_closeDocument :
    (s.closeDocument other).document? uri = if uri = other then none else s.document? uri :=
  lookup_filter_ne

theorem document?_openDocument :
    (s.openDocument other d).document? uri = if uri = other then some d else s.document? uri := by
  rw [openDocument, document?, lookup_cons_eq_ite]
  split
  · rfl
  · rename_i huri
    exact document?_closeDocument.trans (if_neg huri)

theorem foldl_ofText (texts : List String) (d : Document) :
    texts.foldl (fun _ text => .ofText text) d = (texts.getLast?.map .ofText).getD d := by
  induction texts generalizing d with
  | nil => rfl
  | cons text texts ih =>
    rw [List.foldl_cons, ih, List.getLast?_cons]
    cases texts.getLast? <;> rfl

theorem document?_changeDocument (texts : List String) :
    (s.changeDocument other texts).document? uri =
      if uri = other then (s.document? uri).map fun d => (texts.getLast?.map .ofText).getD d
      else s.document? uri := by
  unfold changeDocument
  split
  · rename_i d hdocument
    rw [document?_openDocument, foldl_ofText]
    split
    · rename_i huri
      rw [huri, hdocument]
      rfl
    · rfl
  · rename_i hdocument
    split
    · rename_i huri
      rw [huri, hdocument]
      rfl
    · rfl

theorem document?_perform (h : s.document? uri = text.map .ofText) (call : Call) :
    (s.perform call).value.1.document? uri = (call.textAfter uri text).map .ofText := by
  cases call with
  | opened other new =>
    show (s.openDocument other (.ofText new)).document? uri = _
    rw [document?_openDocument, h, Call.textAfter]
    split <;> rfl
  | changed other texts =>
    show (s.changeDocument other texts).document? uri = _
    rw [document?_changeDocument, h, Call.textAfter]
    cases text <;> cases texts.getLast? <;> split <;> rfl
  | closed other =>
    show (s.closeDocument other).document? uri = _
    rw [document?_closeDocument, h, Call.textAfter]
    split <;> rfl
  | _ => exact h

theorem document?_receive (h : s.document? uri = text.map .ofText) :
    (s.receive read m).value.1.document? uri =
      ((s.call? m).toList.foldl (Call.textAfter uri) text).map .ofText := by
  cases hcall : s.call? m with
  | none => exact (congrArg (List.lookup uri) (documents_receive hcall)).trans h
  | some call =>
    rw [receive_of_call? hcall]
    exact document?_perform h call

theorem document?_session (h : s.document? uri = text.map .ofText) (ms : List Message) :
    (s.session read ms).1.document? uri =
      ((s.calls read ms).foldl (Call.textAfter uri) text).map .ofText := by
  induction ms generalizing s text with
  | nil => exact h
  | cons m ms ih =>
    rw [calls, List.foldl_append]
    exact ih (document?_receive h)

section Agreement

/-- Two servers between which no answer about a document can tell. -/
structure AgreeOn (uri : String) (s s' : Server) : Prop where
  debug_eq : s'.debug = s.debug
  phase_eq : s'.phase = s.phase
  store_eq : s'.store = s.store
  document?_eq : s'.document? uri = s.document? uri

theorem agreeOn_of_spares (h : call.Spares uri s) : AgreeOn uri s (s.perform call).value.1 := by
  refine ⟨debug_perform call s, phase_perform call s, ?_, ?_⟩
  · rw [store_perform]
    cases call with
    | projectChanged change => cases h
    | projectRemoved removed => cases h
    | _ => rfl
  · cases call with
    | opened other new => exact document?_openDocument.trans (if_neg (Ne.symm h))
    | closed other => exact document?_closeDocument.trans (if_neg (Ne.symm h))
    | changed other texts =>
      refine (document?_changeDocument texts).trans (ite_eq_right_iff.mpr ?_)
      rintro rfl
      have hclosed : s.document? uri = none := h.resolve_left fun hne => hne rfl
      rw [hclosed, Option.map_none]
    | _ => rfl

theorem AgreeOn.perform (h : AgreeOn uri s s') (call : Call) :
    AgreeOn uri (s.perform call).value.1 (s'.perform call).value.1 := by
  refine ⟨?_, ?_, ?_, ?_⟩
  · rw [debug_perform, debug_perform, h.debug_eq]
  · rw [phase_perform, phase_perform, h.phase_eq]
  · rw [store_perform, store_perform, h.store_eq]
  · cases call with
    | opened other new =>
      show (s'.openDocument _ _).document? uri = (s.openDocument _ _).document? uri
      rw [document?_openDocument, document?_openDocument, h.document?_eq]
    | changed other texts =>
      show (s'.changeDocument _ _).document? uri = (s.changeDocument _ _).document? uri
      rw [document?_changeDocument, document?_changeDocument, h.document?_eq]
    | closed other =>
      show (s'.closeDocument _).document? uri = (s.closeDocument _).document? uri
      rw [document?_closeDocument, document?_closeDocument, h.document?_eq]
    | _ => exact h.document?_eq

theorem AgreeOn.call?_eq (h : AgreeOn uri s s') (m : Message) : s'.call? m = s.call? m := by
  rw [call?, call?, h.phase_eq]

theorem AgreeOn.receive (h : AgreeOn uri s s') (read : Reader) (m : Message) :
    AgreeOn uri (s.receive read m).value.1 (s'.receive read m).value.1 := by
  cases hcall : s.call? m with
  | some call =>
    rw [receive_of_call? hcall, receive_of_call? ((h.call?_eq m).trans hcall)]
    exact h.perform call
  | none =>
    have hs' : s.withDocuments s'.documents = s' := by
      rw [withDocuments, ← h.debug_eq, ← h.phase_eq, ← h.store_eq]
    have hreceive := receive_withDocuments hcall read s'.documents
    rw [hs'] at hreceive
    rw [hreceive]
    refine ⟨rfl, rfl, rfl, h.document?_eq.trans ?_⟩
    exact (congrArg (List.lookup uri) (documents_receive hcall)).symm

theorem AgreeOn.session (h : AgreeOn uri s s') (read : Reader) (ms : List Message) :
    AgreeOn uri (s.session read ms).1 (s'.session read ms).1 := by
  induction ms generalizing s s' with
  | nil => exact h
  | cons m ms ih => exact ih (h.receive read m)

theorem value_onDocument (answer : Document → Noted Json) : (s.onDocument uri answer).value =
    .result ((s.document? uri).elim .null fun d => (answer d).value) := by
  unfold onDocument
  cases s.document? uri <;> rfl

theorem value_perform_hover (position : Position) : (s.perform (.hover uri position)).value =
    (s, .result ((s.document? uri).elim .null fun d => hoverResult (d.hover position s.store).value)) :=
  congrArg (Prod.mk s) (value_onDocument _)

theorem value_perform_completion (position : Position) : (s.perform (.completion uri position)).value =
    (s, .result ((s.document? uri).elim .null fun d =>
      .array ((d.completions position s.store).value.map CompletionItem.toJson))) :=
  congrArg (Prod.mk s) (value_onDocument _)

theorem AgreeOn.reply_eq (h : AgreeOn uri s s') {position : Position}
    (hcall : s.call? m = some (.hover uri position) ∨ s.call? m = some (.completion uri position)) :
    (s'.receive read m).value.2 = (s.receive read m).value.2 := by
  rcases hcall with hcall | hcall <;>
    rw [receive_of_call? hcall, receive_of_call? ((h.call?_eq m).trans hcall)]
  · rw [value_perform_hover, value_perform_hover, h.document?_eq, h.store_eq]
  · rw [value_perform_completion, value_perform_completion, h.document?_eq, h.store_eq]

end Agreement

/-- After any messages, a question about a document is answered as it would be for a new document of the text
that the calls before have left, or with `null` where they have left none. A call that spares the
document changes no later answer about it. -/
theorem answers_of_history (debug : Bool) (store : Store) (read : Reader) (ms : List Message)
    (uri : String) :
    let now := ((fresh debug store).session read ms).1
    let text := ((fresh debug store).calls read ms).foldl (Call.textAfter uri) none
    (∀ m position, now.call? m = some (.hover uri position) → (now.receive read m).value =
      (now, .result (text.elim .null fun text =>
        hoverResult ((Document.ofText text).hover position now.store).value))) ∧
    (∀ m position, now.call? m = some (.completion uri position) → (now.receive read m).value =
      (now, .result (text.elim .null fun text => .array
        (((Document.ofText text).completions position now.store).value.map CompletionItem.toJson)))) ∧
    ∀ m call, now.call? m = some call → call.Spares uri now → ∀ later q position,
      let without := (now.session read later).1
      let within := (now.session read (m :: later)).1
      without.call? q = some (.hover uri position) ∨ without.call? q = some (.completion uri position) →
        (within.receive read q).value.2 = (without.receive read q).value.2 := by
  intro now text
  have hfresh : (fresh debug store).document? uri = (none : Option String).map .ofText := rfl
  have hdocument : now.document? uri = text.map .ofText := document?_session hfresh ms
  refine ⟨fun m position hcall => ?_, fun m position hcall => ?_, ?_⟩
  · rw [receive_of_call? hcall, value_perform_hover, hdocument]
    cases text <;> rfl
  · rw [receive_of_call? hcall, value_perform_completion, hdocument]
    cases text <;> rfl
  · intro m call hcall hspares later q position without within hq
    have hagree : AgreeOn uri now (now.receive read m).value.1 := by
      rw [receive_of_call? hcall]
      exact agreeOn_of_spares hspares
    exact (hagree.session read later).reply_eq hq

theorem call?_opened (text : String) :
    (Message.opened "file:///a" text).call? = some (.opened "file:///a" text) := rfl

theorem call?_changed :
    (Message.changed "file:///a" ["", "<a>"]).call? = some (.changed "file:///a" ["", "<a>"]) := rfl

theorem answers_of_history_changed :
    let ms : List Message := [.start, .opened "file:///a" "<b>", .changed "file:///a" ["", "<a>"]]
    let now := ((fresh false linkStore).session .noFiles ms).1
    (now.receive .noFiles (.hover "file:///a" ⟨0, 1⟩)).value =
      (now, .result (hoverResult ((Document.ofText "<a>").hover ⟨0, 1⟩ now.store).value)) ∧
    (now.receive .noFiles (.complete "file:///a" ⟨0, 1⟩)).value = (now, .result (.array
      (((Document.ofText "<a>").completions ⟨0, 1⟩ now.store).value.map CompletionItem.toJson))) ∧
    ((now.session .noFiles [.opened "file:///b" "<"]).1.receive .noFiles (.hover "file:///a" ⟨0, 1⟩)).value.2 =
      (now.receive .noFiles (.hover "file:///a" ⟨0, 1⟩)).value.2 := by
  intro ms now
  have hhover : (Message.hover "file:///a" ⟨0, 1⟩).call? = some (.hover "file:///a" ⟨0, 1⟩) := rfl
  have hcomplete : (Message.complete "file:///a" ⟨0, 1⟩).call? = some (.completion "file:///a" ⟨0, 1⟩) := rfl
  have hother : (Message.opened "file:///b" "<").call? = some (.opened "file:///b" "<") := rfl
  have hstart : ((fresh false linkStore).receive .noFiles .start).value.1.phase = .running := rfl
  obtain ⟨hcalls, hnow⟩ := calls_of_running .noFiles hstart
    (.cons (call?_opened "<b>") (.cons call?_changed .nil))
  have htext : ((fresh false linkStore).calls .noFiles ms).foldl (Call.textAfter "file:///a") none = some "<a>" := by
    rw [calls, hcalls]
    rfl
  obtain ⟨hovered, completed, hspared⟩ := answers_of_history false linkStore .noFiles ms "file:///a"
  rw [htext] at hovered completed
  have htaken {m : Message} {call : Call} (h : m.call? = some call) : now.call? m = some call :=
    call?_eq_some_iff.mpr ⟨hnow, h⟩
  exact ⟨hovered _ _ (htaken hhover), completed _ _ (htaken hcomplete),
    hspared _ _ (htaken hother) (show "file:///b" ≠ "file:///a" by decide) [] _ ⟨0, 1⟩ (.inl (htaken hhover))⟩

end Server

end TagTooltips
