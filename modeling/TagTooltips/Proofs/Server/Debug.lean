import TagTooltips.Proofs.Server.Request
import TagTooltips.Server.Wire

/-! Two runs of a server, of which one debugs and the other does not. Handler by handler, the two do the same
and answer the same, and what they send differs by the messages that carry the mark of debugging; no other
message carries it, whatever texts of a client it quotes. -/

namespace TagTooltips

theorem head?_toList_append {a b : String} {c : Char} (h : a.toList.head? = some c) :
    (a ++ b).toList.head? = some c := by
  rw [String.toList_append, List.head?_append, h, Option.some_or]

def debugMark : List Char := "[DEBUG] ".toList

theorem not_debugMark_prefix {s : List Char} {c : Char} (h : s.head? = some c) (hc : c ≠ '[') :
    ¬ debugMark <+: s := by
  rintro ⟨rest, rfl⟩
  exact hc (Option.some.inj h).symm

namespace LogMessage

def isDebug (m : LogMessage) : Bool := Wire.levelCode m.level == 3 && debugMark.isPrefixOf m.text.toList

theorem isDebug_of_unmarked {m : LogMessage} (h : ¬ debugMark <+: m.text.toList) : m.isDebug = false := by
  rw [isDebug, Bool.eq_false_iff.mpr (mt List.isPrefixOf_iff_prefix.mp h), Bool.and_false]

end LogMessage

theorem Failure.unmarked_message (cause : Failure) : ¬ debugMark <+: cause.message.toList := by
  -- Every failure is told in words of its own first, and only then in those of a client.
  cases cause with
  | noLookup =>
    have hfirst : noLookup.message.toList.head? = some 'd' := by decide
    exact not_debugMark_prefix hfirst (by decide)
  | malformed cause =>
    have hfirst : "invalid descriptor data: ".toList.head? = some 'i' := by decide
    exact not_debugMark_prefix (head?_toList_append hfirst) (by decide)
  | unreadable path cause =>
    have hfirst : "failed to read descriptors from ".toList.head? = some 'f' := by decide
    have hmessage : (unreadable path cause).message.toList.head? = some 'f' :=
      head?_toList_append (head?_toList_append (head?_toList_append hfirst))
    exact not_debugMark_prefix hmessage (by decide)
  | noOwner displayName returnType property =>
    have hfirst : "display name `".toList.head? = some 'd' := by decide
    have hname := head?_toList_append (b := displayName) hfirst
    have htype := head?_toList_append (b := returnType)
      (head?_toList_append (b := "` cannot hold return type `") hname)
    have hproperty := head?_toList_append (b := property)
      (head?_toList_append (b := "` and property `") htype)
    exact not_debugMark_prefix (head?_toList_append hproperty) (by decide)

theorem isDebug_activity (what : Activity) :
    LogMessage.isDebug ⟨.info, "[DEBUG] " ++ what.message⟩ = true := by
  have hprefix : debugMark <+: ("[DEBUG] " ++ what.message).toList := by
    rw [String.toList_append]
    exact List.prefix_append _ _
  exact List.isPrefixOf_iff_prefix.mpr hprefix

/-- What the second run does is what the first one does, up to `f` on the values, and it sends the same but
for the messages with the mark. -/
structure Served.Quieter {α β : Type} (f : α → β) (on : Served α) (off : Served β) : Prop where
  value : off.value = f on.value
  log : off.log = on.log.filter fun m => !m.isDebug
  unmarked : ∀ m ∈ off.log, ¬ debugMark <+: m.text.toList

namespace Served

variable {α α' β β' : Type} {f : α → α'} {g : β → β'}

theorem quieter_pure (f : α → α') (a : α) : Quieter f (pure a) (pure (f a)) := ⟨rfl, rfl, nofun⟩

theorem Quieter.bind {on : Served α} {off : Served α'} {next : α → Served β} {next' : α' → Served β'}
    (h : Quieter f on off) (hnext : ∀ a, Quieter g (next a) (next' (f a))) :
    Quieter g (on >>= next) (off >>= next') := by
  have hlast : Quieter g (next on.value) (next' off.value) := h.value ▸ hnext on.value
  refine ⟨hlast.value, ?_, fun m hm => ?_⟩
  · rw [log_bind, log_bind, h.log, hlast.log, List.filter_append]
  · rw [log_bind] at hm
    exact (List.mem_append.mp hm).elim (h.unmarked m) (hlast.unmarked m)

theorem quieter_lift (x : Noted α) : Quieter id (liftM x : Served α) (liftM x) := ⟨rfl, rfl, nofun⟩

theorem quieter_send {m : LogMessage} (h : ¬ debugMark <+: m.text.toList) : Quieter id (send m) (send m) := by
  have hkept : [m].filter (fun m => !m.isDebug) = [m] := by
    rw [List.filter_cons, LogMessage.isDebug_of_unmarked h]
    rfl
  exact ⟨rfl, hkept.symm, fun _ hm => List.mem_singleton.mp hm ▸ h⟩

theorem quieter_foldlM {step : α → β → Served α} {step' : α' → β → Served α'}
    (h : ∀ a b, Quieter f (step a b) (step' (f a) b)) (a : α) (bs : List β) :
    Quieter f (bs.foldlM step a) (bs.foldlM step' (f a)) := by
  induction bs generalizing a with
  | nil => exact quieter_pure f a
  | cons b bs ih => exact (h a b).bind ih

end Served

def Exchange.withoutDebug (x : Exchange) : Exchange := ⟨x.reply, x.log.filter fun m => !m.isDebug⟩

namespace Wire

def isDebugLog (j : Json) : Bool :=
  let params := j.member? "params"
  match j.member? "method", params.bind (·.member? "type"), params.bind (·.member? "message") with
  | some (.string method), some (.number (.integer level)), some (.string text) =>
    method == logMethod && level == 3 && debugMark.isPrefixOf text.toList
  | _, _, _ => false

theorem isDebugLog_logNotification (m : LogMessage) : isDebugLog (logNotification m) = m.isDebug := by
  have hmethod : (logNotification m).member? "method" = some (.string logMethod) := rfl
  have hparams : (logNotification m).member? "params" = some (logParams m) := rfl
  have hmessage : (logParams m).member? "message" = some (.string m.text) := rfl
  have htype : (logParams m).member? "type" = some (.number (.integer (levelCode m.level))) := rfl
  simp only [isDebugLog, hmethod, hparams, Option.bind_some, hmessage, htype, beq_self_eq_true, Bool.true_and,
    LogMessage.isDebug]
  cases m.level <;> rfl

theorem isDebugLog_of_answer? {id j : Json} {r : Reply} (h : answer? id r = some j) :
    isDebugLog j = false := by
  cases r with
  | result _ =>
    obtain rfl := Option.some.inj h
    rfl
  | refused why =>
    obtain rfl := Option.some.inj h
    rfl
  | _ => cases h

theorem outgoing_withoutDebug (e : Envelope) (x : Exchange) :
    outgoing e x.withoutDebug = (outgoing e x).filter fun j => !isDebugLog j := by
  have hlog : (x.log.map logNotification).filter (fun j => !isDebugLog j) =
      (x.log.filter fun m => !m.isDebug).map logNotification := by
    have hsame : (fun j => !isDebugLog j) ∘ logNotification = fun m => !m.isDebug := by
      funext m
      rw [Function.comp_apply, isDebugLog_logNotification]
    rw [List.filter_map, hsame]
  have hanswer : (e.id?.bind fun id => answer? id x.reply).toList.filter (fun j => !isDebugLog j) =
      (e.id?.bind fun id => answer? id x.reply).toList := by
    rw [List.filter_eq_self]
    intro j hj
    obtain ⟨id, -, hid⟩ := Option.bind_eq_some_iff.mp (Option.mem_toList.mp hj)
    rw [isDebugLog_of_answer? hid, Bool.not_false]
  rw [outgoing, outgoing, List.filter_append, hlog, hanswer, Exchange.withoutDebug]

end Wire

namespace Server

open Served

variable {read : Reader}

def quiet (s : Server) : Server := { s with debug := false }

section Handlers

theorem quieter_report (what : Activity) (s : Server) : Quieter id (s.report what) (s.quiet.report what) := by
  have hdropped : [LogMessage.mk .info ("[DEBUG] " ++ what.message)].filter (fun m => !m.isDebug) = [] := by
    rw [List.filter_cons, isDebug_activity]
    rfl
  unfold report
  cases s.debug with
  | false => exact ⟨rfl, rfl, nofun⟩
  | true => exact ⟨rfl, hdropped.symm, nofun⟩

theorem quieter_update (u : Update) (what : Nat → Activity) (s : Server) :
    Quieter quiet (s.update u what) (s.quiet.update u what) :=
  (quieter_lift (u.perform s.store)).bind fun (store, count) =>
    (quieter_report (what count) s).bind fun _ => quieter_pure quiet { s with store }

theorem quiet_changeDocument (uri : String) (texts : List String) (s : Server) :
    s.quiet.changeDocument uri texts = (s.changeDocument uri texts).quiet := by
  have hdocument : s.quiet.document? uri = s.document? uri := rfl
  rw [changeDocument, changeDocument, hdocument]
  cases s.document? uri <;> rfl

theorem quieter_onDocument (uri : String) (answer : Document → Noted Json) (s : Server) :
    Quieter id (s.onDocument uri answer) (s.quiet.onDocument uri answer) := by
  have hdocument : s.quiet.document? uri = s.document? uri := rfl
  rw [onDocument, onDocument, hdocument]
  cases s.document? uri with
  | none => exact quieter_pure id _
  | some d => exact (quieter_lift (answer d)).bind fun j => quieter_pure id (Reply.result j)

def quietly : Server × Reply → Server × Reply := Prod.map quiet id

theorem quieter_reply (s : Server) (reply : Reply) :
    Quieter quietly (pure (s, reply)) (pure (s.quiet, reply)) := quieter_pure quietly (s, reply)

theorem quieter_perform (call : Call) (s : Server) :
    Quieter quietly (s.perform call) (s.quiet.perform call) := by
  cases call with
  | initialized =>
    have hready : ¬ debugMark <+: "Tag helper LSP server initialized".toList :=
      not_debugMark_prefix (c := 'T') (by decide) (by decide)
    exact (quieter_lift _).bind fun _ => (quieter_send hready).bind fun _ => quieter_reply _ _
  | opened uri text => exact (quieter_report _ s).bind fun _ => quieter_reply (s.openDocument uri (.ofText text)) _
  | changed uri texts =>
    refine (quieter_report _ s).bind fun _ => ?_
    rw [quiet_changeDocument]
    exact quieter_reply _ _
  | closed uri => exact (quieter_report _ s).bind fun _ => quieter_reply (s.closeDocument uri) _
  | projectChanged change => exact (quieter_update _ _ s).bind fun s => quieter_reply s _
  | projectRemoved removed => exact (quieter_update _ _ s).bind fun s => quieter_reply s _
  | hover uri position =>
    exact (quieter_report _ s).bind fun _ => (quieter_onDocument uri _ s).bind fun reply => quieter_reply s reply
  | completion uri position =>
    exact (quieter_report _ s).bind fun _ => (quieter_onDocument uri _ s).bind fun reply => quieter_reply s reply
  | resolve item =>
    exact (quieter_report _ s).bind fun _ => (quieter_lift _).bind fun item => quieter_reply s _
  | unsupported => exact quieter_reply s _
  | ignored => exact quieter_reply s _

theorem quieter_loadFile (read : Reader) (s : Server) (path : String) :
    Quieter quiet (s.loadFile read path) (s.quiet.loadFile read path) := by
  refine (quieter_lift (s.store.load read path)).bind fun loaded => ?_
  cases loaded with
  | ok loaded => exact (quieter_report _ s).bind fun _ => quieter_pure quiet { s with store := loaded.1 }
  | error cause =>
    exact (quieter_lift _).bind fun _ => (quieter_send cause.unmarked_message).bind fun _ => quieter_pure quiet s

theorem quieter_start (read : Reader) (options : Option Json) (s : Server) :
    Quieter quiet (s.start read options) (s.quiet.start read options) :=
  (quieter_report _ s).bind fun _ => (quieter_lift (descriptorFiles options)).bind fun paths =>
    (quieter_foldlM (quieter_loadFile read) s paths).bind fun s => quieter_pure quiet { s with phase := .running }

end Handlers

section Messages

@[simp] theorem phase_quiet (s : Server) : s.quiet.phase = s.phase := rfl

variable (m : Message) (s : Server)

theorem quieter_receiveStart (read : Reader) :
    Quieter quietly (s.receiveStart read m) (s.quiet.receiveStart read m) := by
  unfold receiveStart
  rw [phase_quiet]
  split
  · split
    · split
      · exact (quieter_start read _ s).bind fun s => quieter_reply s _
      · exact quieter_reply s _
    · exact quieter_reply s _
  · exact quieter_reply s _

theorem quieter_receiveShutdown : Quieter quietly (s.receiveShutdown m) (s.quiet.receiveShutdown m) := by
  have hstopping : ({ s.quiet with phase := .stopping } : Server) = quiet { s with phase := .stopping } := rfl
  unfold receiveShutdown
  rw [phase_quiet, hstopping]
  split
  · dsimp only
    split
    · exact quieter_reply _ _
    · split
      · exact quieter_reply _ _
      · exact (quieter_report _ _).bind fun _ => quieter_reply _ _
  · exact quieter_reply s _

theorem quieter_receiveCall (read? : Json → Option Call) :
    Quieter quietly (s.receiveCall read? m) (s.quiet.receiveCall read? m) := by
  unfold receiveCall
  rw [phase_quiet]
  split
  · split
    · exact quieter_perform _ s
    · exact quieter_reply s _
  · exact quieter_reply s _

theorem quieter_receiveMisfit : Quieter quietly (s.receiveMisfit m) (s.quiet.receiveMisfit m) := by
  unfold receiveMisfit
  rw [phase_quiet]
  split <;> exact quieter_reply s _

theorem quieter_receive (read : Reader) : Quieter quietly (s.receive read m) (s.quiet.receive read m) := by
  unfold receive
  rw [phase_quiet]
  split
  · exact quieter_reply s _
  split
  · exact quieter_reply { s with phase := .exited } _
  split
  · exact quieter_reply s _
  split
  · exact quieter_receiveStart m s read
  split
  · exact quieter_receiveShutdown m s
  split
  · split
    · exact quieter_receiveCall m s _
    · exact quieter_receiveMisfit m s
  · split
    · exact quieter_receiveMisfit m s
    · exact quieter_receiveCall m s _
  · exact quieter_reply s _

end Messages

section Runs

theorem exchange_quiet (read : Reader) (m : Message) (s : Server) : s.quiet.exchange read m =
    ((s.exchange read m).1.quiet, (s.exchange read m).2.withoutDebug) := by
  have h := quieter_receive m s read
  rw [exchange, exchange, Exchange.withoutDebug]
  dsimp only
  rw [h.value, h.log]
  rfl

theorem session_quiet (read : Reader) (ms : List Message) (s : Server) : s.quiet.session read ms =
    ((s.session read ms).1.quiet, (s.session read ms).2.map Exchange.withoutDebug) := by
  induction ms generalizing s with
  | nil => rfl
  | cons m ms ih =>
    rw [session, exchange_quiet]
    dsimp only
    rw [ih, session]
    rfl

theorem unmarked_of_mem_session {s : Server} {ms : List Message} {x : Exchange} {m : LogMessage}
    (hx : x ∈ (s.quiet.session read ms).2) (hm : m ∈ x.log) : ¬ debugMark <+: m.text.toList := by
  induction ms generalizing s with
  | nil => cases hx
  | cons first ms ih =>
    rw [session, exchange_quiet] at hx
    rcases List.mem_cons.mp hx with rfl | hlater
    · exact (quieter_receive first s read).unmarked m ((quieter_receive first s read).log ▸ hm)
    · exact ih hlater

/-- A run with debugging and one without it, from the same phase, documents and store. After any number of
messages the two servers differ in nothing but that, and they have given the same answers. What the second
one sends for each message is what the first one sends but for the marked information, and nothing that it
sends for the log window begins with the mark. -/
theorem session_without_debug (read : Reader) (envelopes : List Envelope) (s : Server) :
    let ms := envelopes.map (·.message)
    let on : Server := { s with debug := true }
    let off : Server := { s with debug := false }
    (∀ k, (off.session read (ms.take k)).1 = { (on.session read (ms.take k)).1 with debug := false }) ∧
    (off.session read ms).2.map (·.reply) = (on.session read ms).2.map (·.reply) ∧
    List.zipWith Wire.outgoing envelopes (off.session read ms).2 =
      (List.zipWith Wire.outgoing envelopes (on.session read ms).2).map
        (List.filter fun j => !Wire.isDebugLog j) ∧
    ∀ x ∈ (off.session read ms).2, ∀ m ∈ x.log, ¬ debugMark <+: m.text.toList := by
  intro ms on off
  have hoff (ms : List Message) : off.session read ms =
      ((on.session read ms).1.quiet, (on.session read ms).2.map Exchange.withoutDebug) :=
    session_quiet read ms on
  refine ⟨fun k => congrArg Prod.fst (hoff _), ?_, ?_, fun x hx m => unmarked_of_mem_session (s := on) hx⟩
  · rw [hoff, List.map_map]
    rfl
  · have hsent : (fun e x => Wire.outgoing e (Exchange.withoutDebug x)) =
        fun e x => (Wire.outgoing e x).filter fun j => !Wire.isDebugLog j :=
      funext fun e => funext fun x => Wire.outgoing_withoutDebug e x
    rw [hoff, List.zipWith_map_right, hsent, List.map_zipWith]

/-- The name of a missing file may begin with the mark. The warning about the file does not, and it stays. -/
theorem session_without_debug_marked_path :
    let e : Envelope := ⟨some (.ofInt 1), .startWith (Message.listing ["[DEBUG] a"])⟩
    let on := (fresh true .empty).session .noFiles [e.message]
    let off := (fresh false .empty).session .noFiles [e.message]
    let warning : LogMessage :=
      ⟨.warn, "failed to read descriptors from [DEBUG] a: No such file or directory (os error 2)"⟩
    on.2.map (·.log) = [[⟨.info, "[DEBUG] Initializing tag helper LSP server"⟩, warning]] ∧
    off.2.map (·.log) = [[warning]] ∧ ¬ debugMark <+: warning.text.toList ∧
    off.1 = { on.1 with debug := false } ∧
    List.zipWith Wire.outgoing [e] off.2 =
      (List.zipWith Wire.outgoing [e] on.2).map (List.filter fun j => !Wire.isDebugLog j) := by
  intro e on off warning
  have hoff : off.2 = [⟨.result startResult, [warning]⟩] := rfl
  obtain ⟨hservers, -, hsent, hunmarked⟩ := session_without_debug .noFiles [e] (fresh false .empty)
  refine ⟨rfl, by rw [hoff]; rfl, ?_, hservers 1, hsent⟩
  exact hunmarked _ (hoff ▸ List.mem_singleton_self _) _ (List.mem_singleton_self _)

end Runs

end Server

end TagTooltips
