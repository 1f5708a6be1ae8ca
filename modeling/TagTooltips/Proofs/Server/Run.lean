import TagTooltips.Proofs.Store.Operation
import TagTooltips.Server.Session

/-! What a message can come to, and a run of messages. Whatever a client sends, the store stays one that calls
can make. -/

namespace TagTooltips.Server

variable {read : Reader} {m : Message} {s : Server}

inductive Outcome (read : Reader) (s : Server) : Server × Reply → Prop
  | idle (phase : Phase) {reply : Reply} (hreply : ∀ items, reply ≠ .result (.array items)) :
      Outcome read s ({ s with phase }, reply)
  | started (options : Option Json) (hphase : s.phase = .waiting) :
      Outcome read s ((s.start read options).value, .result startResult)
  | called (call : Call) (hphase : s.phase = .running) : Outcome read s (s.perform call).value

theorem outcome_refuse (why : Refusal) : Outcome read s (s, refuse m why) := by
  refine .idle s.phase fun items => ?_
  unfold refuse
  split <;> exact Reply.noConfusion

theorem outcome_receiveStart : Outcome read s (s.receiveStart read m).value := by
  unfold receiveStart
  split
  · rename_i hphase
    split
    · split
      · exact .started _ hphase
      · exact .idle s.phase (by simp)
    · exact .idle s.phase (by simp)
  · exact outcome_refuse _

theorem outcome_receiveShutdown : Outcome read s (s.receiveShutdown m).value := by
  unfold receiveShutdown
  split
  · dsimp only
    split
    · exact .idle .stopping (by simp)
    · split <;> exact .idle .stopping (by simp)
  · exact outcome_refuse _

theorem outcome_receiveCall (read? : Json → Option Call) :
    Outcome read s (s.receiveCall read? m).value := by
  unfold receiveCall
  split
  · rename_i hphase
    split
    · exact .called _ hphase
    · exact outcome_refuse _
  · exact outcome_refuse _

theorem outcome_receiveMisfit : Outcome read s (s.receiveMisfit m).value := by
  unfold receiveMisfit
  split <;> exact outcome_refuse _

theorem outcome_receiveUnknown : Outcome read s (s.receiveUnknown m).value := by
  unfold receiveUnknown
  split
  · exact .idle s.phase (by simp)
  · exact outcome_refuse _

theorem outcome_receive (read : Reader) (m : Message) (s : Server) :
    Outcome read s (s.receive read m).value := by
  unfold receive
  split
  · exact .idle s.phase (by simp)
  split
  · exact .idle .exited (by simp)
  split
  · exact outcome_refuse _
  split
  · exact outcome_receiveStart
  split
  · exact outcome_receiveShutdown
  split
  · split
    · exact outcome_receiveCall _
    · exact outcome_receiveMisfit
  · split
    · exact outcome_receiveMisfit
    · exact outcome_receiveCall _
  · exact outcome_receiveUnknown

section Store

theorem value_loadFile (read : Reader) (s : Server) (path : String) : (s.loadFile read path).value =
    { s with store := Operation.run s.store (.load read path) } := by
  rw [loadFile, Served.value_bind, Served.value_lift, Operation.run]
  cases (s.store.load read path).value <;> rfl

theorem foldl_loadFile (read : Reader) (s : Server) (paths : List String) :
    paths.foldl (fun s path => (loadFile read s path).value) s =
      { s with store := (paths.map (Operation.load read)).foldl Operation.run s.store } := by
  induction paths generalizing s with
  | nil => rfl
  | cons path paths ih => rw [List.foldl_cons, ih, value_loadFile, List.map_cons, List.foldl_cons]

theorem value_start (read : Reader) (options : Option Json) (s : Server) : (s.start read options).value =
    { s with
      phase := .running
      store := ((descriptorFiles options).value.map (Operation.load read)).foldl Operation.run s.store } := by
  have hvalue : (s.start read options).value =
      { ((descriptorFiles options).value.foldlM (loadFile read) s).value with phase := .running } := rfl
  rw [hvalue, Served.value_foldlM, foldl_loadFile]

def operation? : Call → Option Operation
  | .projectChanged change => some (.change change)
  | .projectRemoved removed => some (.remove removed.project)
  | _ => none

theorem store_changeDocument (uri : String) (texts : List String) (s : Server) :
    (s.changeDocument uri texts).store = s.store := by
  unfold changeDocument
  split <;> rfl

theorem store_perform (call : Call) (s : Server) :
    (s.perform call).value.1.store = (operation? call).elim s.store fun op => op.run s.store := by
  cases call with
  | changed uri texts => exact store_changeDocument uri texts s
  | _ => rfl

theorem reachable_receive (h : s.store.Reachable) (read : Reader) (m : Message) :
    (s.receive read m).value.1.store.Reachable := by
  generalize hout : (s.receive read m).value = out
  have houtcome : Outcome read s out := hout ▸ outcome_receive read m s
  cases houtcome with
  | idle phase hreply => exact h
  | started options hphase =>
    rw [value_start]
    exact h.foldl_run _
  | called call hphase =>
    rw [store_perform]
    cases operation? call with
    | none => exact h
    | some op => exact h.run op

end Store

section Reply

def itemsAt (s : Server) (d : Document) (position : Position) : List Json :=
  (d.completions position s.store).value.map CompletionItem.toJson

theorem of_onDocument {uri : String} {answer : Document → Noted Json} {items : List Json}
    (h : (s.onDocument uri answer).value = .result (.array items)) :
    ∃ d, s.document? uri = some d ∧ (answer d).value = .array items := by
  unfold onDocument at h
  cases hdocument : s.document? uri with
  | none => simp [hdocument] at h
  | some d => exact ⟨d, rfl, by simpa [hdocument] using h⟩

theorem of_perform {call : Call} {items : List Json}
    (h : (s.perform call).value.2 = .result (.array items)) :
    ∃ uri position d, call = .completion uri position ∧ s.document? uri = some d ∧
      items = s.itemsAt d position := by
  cases call with
  | completion uri position =>
    obtain ⟨d, hdocument, hanswer⟩ := of_onDocument h
    exact ⟨uri, position, d, rfl, hdocument, (Json.array.inj hanswer).symm⟩
  | hover uri position =>
    obtain ⟨d, -, hanswer⟩ := of_onDocument h
    rw [Noted.value_map] at hanswer
    unfold hoverResult at hanswer
    split at hanswer <;> cases hanswer
  | _ => cases h

theorem of_receive {items : List Json} (h : (s.receive read m).value.2 = .result (.array items)) :
    (s.receive read m).value.1 = s ∧ ∃ d position, items = s.itemsAt d position := by
  generalize hout : (s.receive read m).value = out at h ⊢
  have houtcome : Outcome read s out := hout ▸ outcome_receive read m s
  cases houtcome with
  | idle phase hreply => exact absurd h (hreply items)
  | started options hphase => cases h
  | called call hphase =>
    obtain ⟨uri, position, d, rfl, -, hitems⟩ := of_perform h
    exact ⟨rfl, d, position, hitems⟩

end Reply

section Session

theorem reachable_session (h : s.store.Reachable) (ms : List Message) :
    (s.session read ms).1.store.Reachable := by
  induction ms generalizing s with
  | nil => exact h
  | cons m ms ih => exact ih (reachable_receive h read m)

end Session

end TagTooltips.Server
