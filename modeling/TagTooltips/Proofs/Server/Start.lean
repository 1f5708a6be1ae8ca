import TagTooltips.Proofs.Server.Request
import TagTooltips.Proofs.Server.Run
import TagTooltips.Proofs.Store.Loading

/-! The start of a server. Of the files that a client lists, those that can be loaded are, in order, and each
of the others costs a warning and nothing else. -/

namespace TagTooltips

open Json

namespace Reader

variable {read : Reader} {path : String} {s : Store}

def update? (read : Reader) (path : String) : Option Update := (Update.ofFile read path).toOption

def loads (read : Reader) (path : String) : Bool := (read.update? path).isSome

def failure? (read : Reader) (path : String) : Option Failure :=
  match Update.ofFile read path with
  | .ok _ => none
  | .error cause => some cause

theorem failure?_eq_none_iff : read.failure? path = none ↔ read.loads path := by
  unfold failure? loads update?
  cases Update.ofFile read path with
  | ok u => exact ⟨fun _ => rfl, fun _ => rfl⟩
  | error cause => exact ⟨nofun, nofun⟩

theorem value_load_eq_error_iff {cause : Failure} :
    (s.load read path).value = .error cause ↔ read.failure? path = some cause := by
  unfold failure?
  cases hfile : Update.ofFile read path with
  | ok u =>
    rw [Store.load_of_ok hfile]
    exact ⟨nofun, nofun⟩
  | error other => rw [Store.load_of_error hfile, Noted.value_pure, Except.error.injEq, Option.some_inj]

theorem value_load_eq_ok_iff {loaded : Store × Nat} : (s.load read path).value = .ok loaded ↔
    ∃ u, read.update? path = some u ∧ (u.apply s, u.count s) = loaded := by
  unfold update?
  cases hfile : Update.ofFile read path with
  | ok u =>
    have hvalue : (u.perform s).value = (u.apply s, u.count s) := rfl
    rw [Store.load_of_ok hfile, Noted.value_map, hvalue, Except.ok.injEq]
    exact ⟨fun h => ⟨u, rfl, h⟩, fun ⟨v, hv, h⟩ => Option.some.inj hv ▸ h⟩
  | error cause =>
    rw [Store.load_of_error hfile]
    exact ⟨nofun, fun ⟨_, h, _⟩ => nomatch h⟩

theorem filterMap_update?_filter_loads (read : Reader) (paths : List String) :
    (paths.filter read.loads).filterMap read.update? = paths.filterMap read.update? := by
  rw [List.filterMap_filter]
  refine List.filterMap_congr fun path _ => ?_
  rw [loads]
  cases read.update? path <;> rfl

theorem filterMap_failure?_filter_loads (read : Reader) (paths : List String) :
    (paths.filter read.loads).filterMap read.failure? = [] := by
  rw [List.filterMap_eq_nil_iff]
  exact fun path hpath => failure?_eq_none_iff.mpr (List.mem_filter.mp hpath).2

end Reader

def LogMessage.isWarning (m : LogMessage) : Bool := m.level == .warn

def Failure.warning (cause : Failure) : LogMessage := ⟨.warn, cause.message⟩

def Exchange.warnings (x : Exchange) : List LogMessage := x.log.filter LogMessage.isWarning

/-- A request to start, with parameters that can be read and these options in them. -/
structure Message.StartsWith (m : Message) (options : Option Json) : Prop where
  method : m.method = "initialize"
  isRequest : m.isRequest = true
  params : ∃ params, m.params.bind Shape.startParams.canonical? = some params ∧
    params.member? "initializationOptions" = options

namespace Server

variable {read : Reader} {m : Message} {s : Server} {options : Option Json}

section Options

theorem descriptorFiles_of_unreadable (h : options.bind optionsOfJson? = none) :
    (descriptorFiles options).value = [] := by
  unfold descriptorFiles
  cases options with
  | none => rfl
  | some j =>
    rw [Option.map_some, show optionsOfJson? j = none from h]
    rfl

theorem startsWith_listing (paths : List String) :
    (Message.startWith (Message.listing paths)).StartsWith (some (Message.listing paths)) :=
  ⟨rfl, rfl, _, rfl, rfl⟩

theorem descriptorFiles_listing (paths : List String) :
    (descriptorFiles (some (Message.listing paths))).value = paths := by
  have hpath (path : String) : string? (.string path) = some path := rfl
  have hpaths : list? string? (.array (paths.map .string)) = some paths := list?_map hpath paths
  have hoptions : optionsOfJson? (Message.listing paths) = some paths := hpaths
  rw [descriptorFiles, Option.map_some, hoptions]
  rfl

end Options

section Files

theorem filter_isWarning_report (what : Activity) (s : Server) :
    (s.report what).log.filter LogMessage.isWarning = [] := by
  unfold report
  cases s.debug <;> rfl

theorem filter_isWarning_loadFile (read : Reader) (s : Server) (path : String) :
    (s.loadFile read path).log.filter LogMessage.isWarning =
      ((read.failure? path).map Failure.warning).toList := by
  unfold loadFile Reader.failure?
  cases hfile : Update.ofFile read path with
  | ok u =>
    rw [Store.load_of_ok hfile, Served.log_bind, Served.log_lift, Served.value_lift, Noted.value_map]
    dsimp only
    rw [List.nil_append, Served.log_bind, List.filter_append, filter_isWarning_report]
    rfl
  | error cause =>
    rw [Store.load_of_error hfile]
    rfl

theorem filter_isWarning_foldlM_loadFile (read : Reader) (s : Server) (paths : List String) :
    (paths.foldlM (loadFile read) s).log.filter LogMessage.isWarning =
      (paths.filterMap read.failure?).map Failure.warning := by
  induction paths generalizing s with
  | nil => rfl
  | cons path paths ih =>
    rw [List.foldlM_cons, Served.log_bind, List.filter_append, filter_isWarning_loadFile, ih]
    cases hfailure : read.failure? path with
    | none =>
      rw [List.filterMap_cons_none hfailure]
      rfl
    | some cause =>
      rw [List.filterMap_cons_some hfailure]
      rfl

theorem store_foldl_load (read : Reader) (paths : List String) (store : Store) :
    (paths.map (Operation.load read)).foldl Operation.run store =
      (paths.filterMap read.update?).foldl Update.apply store := by
  rw [Operation.foldl_run, Operation.history, List.filterMap_map]
  rfl

end Files

theorem receive_of_startsWith (hphase : s.phase = .waiting) (hstart : m.StartsWith options) :
    s.receive read m = (fun s => (s, .result startResult)) <$> s.start read options := by
  obtain ⟨params, hparams, hoptions⟩ := hstart.params
  rw [receive, if_neg (by rw [hphase]; decide), hstart.method, if_neg (by decide), if_neg (by decide),
    if_pos rfl, receiveStart, if_pos hphase, if_pos hstart.isRequest, hparams]
  subst hoptions
  rfl

theorem exchange_of_startsWith (read : Reader) (hphase : s.phase = .waiting) (hstart : m.StartsWith options) :
    let loaded := (descriptorFiles options).value.foldlM (loadFile read) s
    s.exchange read m = ({ loaded.value with phase := .running },
      ⟨.result startResult, (s.report .starting).log ++ loaded.log⟩) := by
  intro loaded
  have hlog : (s.start read options).log = (s.report .starting).log ++ loaded.log := by
    simp only [start, Served.log_bind, Served.log_lift, List.nil_append]
    exact congrArg _ (List.append_nil _)
  rw [exchange, receive_of_startsWith hphase hstart]
  dsimp only
  rw [Served.log_map, hlog]
  rfl

theorem server_exchange_of_startsWith (read : Reader) (hphase : s.phase = .waiting)
    (hstart : m.StartsWith options) : (s.exchange read m).1 = { s with
      phase := .running
      store := ((descriptorFiles options).value.filterMap read.update?).foldl Update.apply s.store } := by
  rw [exchange_of_startsWith read hphase hstart]
  dsimp only
  rw [Served.value_foldlM, foldl_loadFile, store_foldl_load]

theorem warnings_exchange_of_startsWith (read : Reader) (hphase : s.phase = .waiting)
    (hstart : m.StartsWith options) : (s.exchange read m).2.warnings =
      ((descriptorFiles options).value.filterMap read.failure?).map Failure.warning := by
  rw [exchange_of_startsWith read hphase hstart, Exchange.warnings]
  dsimp only
  rw [List.filter_append, filter_isWarning_report, List.nil_append, filter_isWarning_foldlM_loadFile]

theorem exchange_eq_startWith (read : Reader) (hphase : s.phase = .waiting) (hstart : m.StartsWith options) :
    s.exchange read m = s.exchange read (.startWith (Message.listing (descriptorFiles options).value)) := by
  have hplain := exchange_of_startsWith read hphase (startsWith_listing (descriptorFiles options).value)
  rw [descriptorFiles_listing] at hplain
  exact (exchange_of_startsWith read hphase hstart).trans hplain.symm

/-- Whether a file can be loaded, what it does to a store and what is wrong with it is the same for every store.
The files that a client lists at the start are loaded in order as far as they can be, and the server becomes
the one that it would be if the others were not listed. Of each of those the client is warned once, in
order and in the words of its failure. Options that cannot be read come to the same as an empty list. -/
theorem start_isolates_failing_files (read : Reader) (hphase : s.phase = .waiting)
    (hstart : m.StartsWith options) :
    let paths := (descriptorFiles options).value
    let started := s.exchange read m
    let cleaned := s.exchange read (.startWith (Message.listing (paths.filter read.loads)))
    (∀ (store : Store) (path : String),
      (∀ loaded, (store.load read path).value = .ok loaded ↔
        ∃ u, read.update? path = some u ∧ (u.apply store, u.count store) = loaded) ∧
      ∀ cause, (store.load read path).value = .error cause ↔ read.failure? path = some cause) ∧
    (∀ files : List String, options = some (Message.listing files) → paths = files) ∧
    started.2.reply = .result startResult ∧ cleaned.2.reply = .result startResult ∧
    started.1 = { s with
      phase := .running, store := (paths.filterMap read.update?).foldl Update.apply s.store } ∧
    cleaned.1 = started.1 ∧
    started.2.warnings = (paths.filterMap read.failure?).map Failure.warning ∧ cleaned.2.warnings = [] ∧
    started = s.exchange read (.startWith (Message.listing paths)) ∧
    (options.bind optionsOfJson? = none → started = s.exchange read (.startWith (Message.listing []))) := by
  intro paths started cleaned
  have hcleaned := startsWith_listing (paths.filter read.loads)
  have hplain : started = s.exchange read (.startWith (Message.listing paths)) :=
    exchange_eq_startWith read hphase hstart
  refine ⟨fun store path => ⟨fun loaded => Reader.value_load_eq_ok_iff,
    fun cause => Reader.value_load_eq_error_iff⟩, fun files hfiles => ?_, ?_, ?_, ?_, ?_, ?_, ?_, hplain,
    fun hunreadable => ?_⟩
  · subst hfiles
    exact descriptorFiles_listing files
  · exact congrArg (·.2.reply) (exchange_of_startsWith read hphase hstart)
  · exact congrArg (·.2.reply) (exchange_of_startsWith read hphase hcleaned)
  · exact server_exchange_of_startsWith read hphase hstart
  · rw [server_exchange_of_startsWith read hphase hcleaned, descriptorFiles_listing,
      Reader.filterMap_update?_filter_loads, server_exchange_of_startsWith read hphase hstart]
  · exact warnings_exchange_of_startsWith read hphase hstart
  · rw [warnings_exchange_of_startsWith read hphase hcleaned, descriptorFiles_listing,
      Reader.filterMap_failure?_filter_loads, List.map_nil]
  · have hnone : paths = [] := descriptorFiles_of_unreadable hunreadable
    rw [hplain, hnone]

/-- Of five files, two of them listed twice, the one that holds a list of descriptors is loaded, both times. Two
others hold no descriptors, and each of them is told of in its own words. Options that are a number list no
files. -/
theorem start_isolates_failing_files_mixed :
    let batch : List Descriptor := [⟨"Ns.A", none, ["a"], []⟩]
    let notFound := "No such file or directory (os error 2)"
    let notText := "stream did not contain valid UTF-8"
    let unfinished := "EOF while parsing an object at line 1 column 1"
    let foreign := "data did not match any variant of untagged enum DescriptorFile"
    let read : Reader := {
      text path :=
        if path = "list" then .ok (String.ofList (Json.array (batch.map Descriptor.toJson)).render)
        else if path = "bytes" then .error notText
        else if path = "broken" then .ok "\x7b"
        else if path = "other" then .ok "null"
        else .error notFound
      complaint text := if text = "\x7b" then unfinished else foreign }
    let paths := ["missing", "list", "bytes", "broken", "list", "other", "missing"]
    let s := fresh false .empty
    let m := Message.startWith (Message.listing paths)
    let number := Message.startWith (.ofInt 42)
    s.phase = .waiting ∧ m.StartsWith (some (Message.listing paths)) ∧
    (s.exchange read m).2.reply = .result startResult ∧
    (s.exchange read m).1 = { s with
      phase := .running, store := (Store.empty.provide "list" batch).provide "list" batch } ∧
    (s.exchange read (.startWith (Message.listing ["list", "list"]))).1 = (s.exchange read m).1 ∧
    (s.exchange read m).2.warnings = [.unreadable "missing" notFound, .unreadable "bytes" notText,
      .malformed unfinished, .malformed foreign, .unreadable "missing" notFound].map Failure.warning ∧
    (Failure.malformed unfinished).warning =
      ⟨.warn, "invalid descriptor data: EOF while parsing an object at line 1 column 1"⟩ ∧
    number.StartsWith (some (.ofInt 42)) ∧ optionsOfJson? (.ofInt 42) = none ∧
    s.exchange read number = s.exchange read (.startWith (Message.listing [])) := by
  intro batch notFound notText unfinished foreign read paths s m number
  have hlist : Update.ofFile read "list" = .ok (.provide "list" batch) :=
    Update.ofFile_list (Reader.holds_render (legible_map Descriptor.legible_toJson batch) rfl)
  have hmissing : Update.ofFile read "missing" = .error (.unreadable "missing" notFound) := rfl
  have hbytes : Update.ofFile read "bytes" = .error (.unreadable "bytes" notText) := rfl
  have hbroken : Update.ofFile read "broken" = .error (.malformed unfinished) := rfl
  have hother : Update.ofFile read "other" = .error (.malformed foreign) := rfl
  have hupdates : paths.filterMap read.update? = [.provide "list" batch, .provide "list" batch] := by
    simp only [paths, List.filterMap_cons, Reader.update?, hlist, hmissing, hbytes, hbroken, hother]
    rfl
  have hfailures : paths.filterMap read.failure? = [.unreadable "missing" notFound,
      .unreadable "bytes" notText, .malformed unfinished, .malformed foreign, .unreadable "missing" notFound] := by
    simp only [paths, List.filterMap_cons, Reader.failure?, hlist, hmissing, hbytes, hbroken, hother]
    rfl
  have hloads : paths.filter read.loads = ["list", "list"] := by
    simp only [paths, List.filter_cons, Reader.loads, Reader.update?, hlist, hmissing, hbytes, hbroken, hother]
    rfl
  have hphase : s.phase = .waiting := rfl
  have hlisted := startsWith_listing paths
  have hnumber : number.StartsWith (some (.ofInt 42)) := ⟨rfl, rfl, _, rfl, rfl⟩
  obtain ⟨-, hread, hreply, -, hserver, hcleaned, hwarnings, -⟩ :=
    start_isolates_failing_files read hphase hlisted
  obtain ⟨-, -, -, -, -, -, -, -, -, hempty⟩ := start_isolates_failing_files read hphase hnumber
  rw [hread paths rfl, hupdates] at hserver
  rw [hread paths rfl, hloads] at hcleaned
  rw [hread paths rfl, hfailures] at hwarnings
  exact ⟨rfl, hlisted, hreply, hserver, hcleaned, hwarnings, rfl, hnumber, rfl, hempty rfl⟩

end Server

end TagTooltips
