import TagTooltips.Proofs.Server.Run

/-! What a message asks of a running server. A message that asks for nothing leaves the documents alone,
and what it does besides does not depend on them. -/

namespace TagTooltips

/-- The call that a running server takes from a message: of a method that it offers, as a request or
a notification as the method has it, and with parameters that can be read. -/
def Message.call? (m : Message) : Option Call :=
  match Call.ofRequest? m.method, Call.ofNotification? m.method with
  | some read?, _ => if m.isRequest then m.params.bind read? else none
  | none, some read? => if m.isRequest then none else m.params.bind read?
  | none, none => none

/-- The server keeps some methods for itself; they make no call. -/
theorem Message.method_ne_of_call? {m : Message} {call : Call} (h : m.call? = some call) {method : String}
    (hreserved : Call.ofRequest? method = none ∧ Call.ofNotification? method = none) :
    m.method ≠ method := by
  rintro rfl
  rw [call?, hreserved.1, hreserved.2] at h
  cases h

namespace Server

def call? (m : Message) (s : Server) : Option Call := if s.phase = .running then m.call? else none

def calls (read : Reader) : List Message → Server → List Call
  | [], _ => []
  | m :: ms, s => (s.call? m).toList ++ calls read ms (s.receive read m).value.1

variable {read : Reader} {m : Message} {s : Server} {call : Call}

theorem call?_eq_some_iff : s.call? m = some call ↔ s.phase = .running ∧ m.call? = some call := by
  rw [call?, Option.ite_none_right_eq_some]

theorem receiveCall_of_some {read? : Json → Option Call} (hphase : s.phase = .running)
    (hread : m.params.bind read? = some call) : s.receiveCall read? m = s.perform call := by
  rw [receiveCall, if_pos hphase, hread]

theorem server_receiveCall_of_none {read? : Json → Option Call}
    (hread : s.phase = .running → m.params.bind read? = none) : (s.receiveCall read? m).value.1 = s := by
  unfold receiveCall
  split
  · rename_i hphase
    rw [hread hphase]
    rfl
  · rfl

theorem server_receiveMisfit : (s.receiveMisfit m).value.1 = s := by
  unfold receiveMisfit
  split <;> rfl

theorem receive_of_call? (h : s.call? m = some call) : s.receive read m = s.perform call := by
  obtain ⟨hphase, hcall⟩ := call?_eq_some_iff.mp h
  rw [receive, if_neg (by rw [hphase]; decide), if_neg (Message.method_ne_of_call? hcall ⟨rfl, rfl⟩),
    if_neg (Message.method_ne_of_call? hcall ⟨rfl, rfl⟩),
    if_neg (Message.method_ne_of_call? hcall ⟨rfl, rfl⟩),
    if_neg (Message.method_ne_of_call? hcall ⟨rfl, rfl⟩)]
  unfold Message.call? at hcall
  cases hrequest : Call.ofRequest? m.method with
  | some read? =>
    simp only [hrequest, Option.ite_none_right_eq_some] at hcall
    simp only [hcall.1, if_true]
    exact receiveCall_of_some hphase hcall.2
  | none =>
    cases hnotification : Call.ofNotification? m.method with
    | some read? =>
      simp only [hrequest, hnotification, Option.ite_none_left_eq_some] at hcall
      simp only [hcall.1]
      exact receiveCall_of_some hphase hcall.2
    | none => simp [hrequest, hnotification] at hcall

theorem exists_server_perform (call : Call) (s : Server) :
    ∃ documents store, (s.perform call).value.1 = { s with documents, store } := by
  cases call with
  | changed other texts =>
    show ∃ documents store, s.changeDocument other texts = { s with documents, store }
    unfold changeDocument
    split <;> exact ⟨_, _, rfl⟩
  | _ => exact ⟨_, _, rfl⟩

theorem debug_perform (call : Call) (s : Server) : (s.perform call).value.1.debug = s.debug := by
  obtain ⟨documents, store, hserver⟩ := exists_server_perform call s
  rw [hserver]

theorem phase_perform (call : Call) (s : Server) : (s.perform call).value.1.phase = s.phase := by
  obtain ⟨documents, store, hserver⟩ := exists_server_perform call s
  rw [hserver]

theorem calls_of_running (read : Reader) {ms : List Message} {made : List Call}
    (hphase : s.phase = .running) (hmade : List.Forall₂ (fun m call => m.call? = some call) ms made) :
    s.calls read ms = made ∧ (s.session read ms).1.phase = .running := by
  induction hmade generalizing s with
  | nil => exact ⟨rfl, hphase⟩
  | @cons m call ms made hcall _ ih =>
    have hcall : s.call? m = some call := call?_eq_some_iff.mpr ⟨hphase, hcall⟩
    have hnext : (s.receive read m).value.1.phase = .running := by
      rw [receive_of_call? hcall, phase_perform, hphase]
    obtain ⟨hcalls, hlast⟩ := ih hnext
    refine ⟨?_, hlast⟩
    rw [calls, hcall, hcalls]
    rfl

section Documents

def withDocuments (documents : List (String × Document)) (s : Server) : Server := { s with documents }

variable {documents : List (String × Document)}

@[simp] theorem phase_withDocuments : (s.withDocuments documents).phase = s.phase := rfl

theorem start_withDocuments (options : Option Json) :
    ((s.withDocuments documents).start read options).value =
      (s.start read options).value.withDocuments documents := by
  rw [value_start, value_start]
  rfl

theorem receiveStart_withDocuments : ((s.withDocuments documents).receiveStart read m).value.1 =
    (s.receiveStart read m).value.1.withDocuments documents := by
  unfold receiveStart
  rw [phase_withDocuments]
  split
  · split
    · split
      · exact start_withDocuments _
      · rfl
    · rfl
  · rfl

theorem receiveShutdown_withDocuments : ((s.withDocuments documents).receiveShutdown m).value.1 =
    (s.receiveShutdown m).value.1.withDocuments documents := by
  unfold receiveShutdown
  rw [phase_withDocuments]
  split
  · dsimp only
    split
    · rfl
    · split <;> rfl
  · rfl

/-- A message that makes no call does the same to a server whatever documents are open. -/
theorem receive_withDocuments (h : s.call? m = none) (read : Reader)
    (documents : List (String × Document)) : ((s.withDocuments documents).receive read m).value.1 =
      (s.receive read m).value.1.withDocuments documents := by
  unfold receive
  rw [phase_withDocuments]
  split
  · rfl
  split
  · rfl
  split
  · rfl
  split
  · exact receiveStart_withDocuments
  split
  · exact receiveShutdown_withDocuments
  -- What is left comes to a call that is not made, or to a refusal.
  rw [call?, ite_eq_right_iff] at h
  unfold Message.call? at h
  cases hrequest : Call.ofRequest? m.method with
  | some read? =>
    simp only [hrequest, ite_eq_right_iff] at h ⊢
    split
    · rename_i hkind
      rw [server_receiveCall_of_none (h · hkind)]
      exact server_receiveCall_of_none (h · hkind)
    · rw [server_receiveMisfit, server_receiveMisfit]
  | none =>
    cases hnotification : Call.ofNotification? m.method with
    | some read? =>
      simp only [hrequest, hnotification, ite_eq_left_iff] at h ⊢
      split
      · rw [server_receiveMisfit, server_receiveMisfit]
      · rename_i hkind
        rw [server_receiveCall_of_none (h · hkind)]
        exact server_receiveCall_of_none (h · hkind)
    | none => rfl

theorem documents_receive (h : s.call? m = none) :
    (s.receive read m).value.1.documents = s.documents := by
  have hself : (s.receive read m).value.1 = (s.receive read m).value.1.withDocuments s.documents :=
    receive_withDocuments h read s.documents
  rw [hself]
  rfl

end Documents

end Server

end TagTooltips
