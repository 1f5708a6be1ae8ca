import TagTooltips.Proofs.Descriptor
import TagTooltips.Proofs.Store.Operation

/-! Descriptor files. A file that was written for the change of a project, or for a list of descriptors, is
loaded as that, and no other content can be taken for either. -/

namespace TagTooltips

open Json

def Reader.Holds (read : Reader) (path : String) (j : Json) : Prop :=
  ∃ text, read.text path = .ok text ∧ ofTextStrict? text.toList = some j

namespace FileContent

theorem ofJson?_change (c : ProjectSnapshot) : ofJson? c.toJson = some (.project c) := by
  rw [ofJson?, ProjectSnapshot.ofJson?_toJson]
  rfl

theorem ofJson?_list (batch : List Descriptor) :
    ofJson? (.array (batch.map Descriptor.toJson)) = some (.bare batch) := by
  have hbare := list?_map Descriptor.ofJson?_toJson batch
  have hchange : ProjectSnapshot.ofJson? (.array (batch.map Descriptor.toJson)) = none :=
    (ProjectSnapshot.ofJson?_eq_none_or _).resolve_right (by simp [hbare])
  rw [ofJson?, hchange, hbare]
  rfl

theorem ofJson?_eq_none_iff {j : Json} :
    ofJson? j = none ↔ ProjectSnapshot.ofJson? j = none ∧ list? Descriptor.ofJson? j = none := by
  rw [ofJson?, Option.or_eq_none_iff, Option.map_eq_none_iff, Option.map_eq_none_iff]

theorem ofJson?_eq_or_change (j : Json) : ofJson? j =
    ((list? Descriptor.ofJson? j).map bare).or ((ProjectSnapshot.ofJson? j).map project) := by
  rw [ofJson?]
  rcases ProjectSnapshot.ofJson?_eq_none_or j with hchange | hbare
  · rw [hchange, Option.map_none, Option.none_or, Option.or_none]
  · rw [hbare, Option.map_none, Option.none_or, Option.or_none]

end FileContent

section

variable {read : Reader} {path : String} {j : Json} {s : Store}

theorem Reader.holds_render (h : Legible maxDepth j)
    (hread : read.text path = .ok (String.ofList j.render)) : read.Holds path j :=
  ⟨_, hread, by rw [String.toList_ofList, h.ofTextStrict?_render]⟩

namespace Update

theorem ofFile_change {c : ProjectSnapshot} (h : read.Holds path c.toJson) :
    ofFile read path = .ok (ofChange c) := by
  obtain ⟨text, htext, hj⟩ := h
  simp only [ofFile, htext, hj, Option.bind_some, FileContent.ofJson?_change]

theorem ofFile_list {batch : List Descriptor} (h : read.Holds path (.array (batch.map Descriptor.toJson))) :
    ofFile read path = .ok (provide path batch) := by
  obtain ⟨text, htext, hj⟩ := h
  simp only [ofFile, htext, hj, Option.bind_some, FileContent.ofJson?_list]

theorem ofFile_neither (h : ∀ j, read.Holds path j → FileContent.ofJson? j = none) :
    ∃ cause, ofFile read path = .error cause := by
  cases htext : read.text path with
  | error cause => exact ⟨.unreadable path cause, by simp only [ofFile, htext]⟩
  | ok text =>
    have hnone : (ofTextStrict? text.toList).bind FileContent.ofJson? = none := by
      refine Option.bind_eq_none_iff.mpr fun j hj => ?_
      exact h j ⟨text, htext, hj⟩
    exact ⟨.malformed (read.complaint text), by simp only [ofFile, htext, hnone]⟩

end Update

namespace Store

theorem load_of_ok {u : Update} (h : Update.ofFile read path = .ok u) :
    s.load read path = Except.ok <$> u.perform s := by
  rw [load, h]
  rfl

theorem load_of_error {cause : Failure} (h : Update.ofFile read path = .error cause) :
    s.load read path = pure (.error cause) := by
  rw [load, h]

/-- A file as it is written for the change of a project, or for a list of descriptors, holds just that, and
loading it is to apply the change, or to file the list under the path. A file that holds neither fails and
leaves the store as it is. No value is both, so that the order in which they are tried does not matter. -/
theorem load_of_holds (read : Reader) (path : String) (s : Store) :
    (∀ c : ProjectSnapshot,
      (read.text path = .ok (String.ofList c.toJson.render) → read.Holds path c.toJson) ∧
      (read.Holds path c.toJson → s.load read path = Except.ok <$> (Update.ofChange c).perform s)) ∧
    (∀ batch : List Descriptor, let j := Json.array (batch.map Descriptor.toJson)
      (read.text path = .ok (String.ofList j.render) → read.Holds path j) ∧
      (read.Holds path j → s.load read path = Except.ok <$> (Update.provide path batch).perform s)) ∧
    ((∀ j, read.Holds path j → ProjectSnapshot.ofJson? j = none ∧ list? Descriptor.ofJson? j = none) →
      (∃ cause, s.load read path = pure (.error cause)) ∧ (Operation.load read path).run s = s) ∧
    ∀ j, (ProjectSnapshot.ofJson? j = none ∨ list? Descriptor.ofJson? j = none) ∧
      FileContent.ofJson? j =
        ((list? Descriptor.ofJson? j).map .bare).or ((ProjectSnapshot.ofJson? j).map .project) := by
  refine ⟨fun c => ⟨?_, ?_⟩, fun batch => ⟨?_, ?_⟩, fun hneither => ?_, fun j => ⟨?_, ?_⟩⟩
  · exact Reader.holds_render c.legible_toJson
  · exact fun h => load_of_ok (Update.ofFile_change h)
  · exact Reader.holds_render (legible_map Descriptor.legible_toJson batch)
  · exact fun h => load_of_ok (Update.ofFile_list h)
  · obtain ⟨cause, hcause⟩ := Update.ofFile_neither fun j hj => FileContent.ofJson?_eq_none_iff.mpr (hneither j hj)
    have hload : s.load read path = pure (.error cause) := load_of_error hcause
    exact ⟨⟨cause, hload⟩, by rw [Operation.run, hload]; rfl⟩
  · exact ProjectSnapshot.ofJson?_eq_none_or j
  · exact FileContent.ofJson?_eq_or_change j

theorem load_of_holds_escaped :
    let c : ProjectSnapshot := ⟨"web", [⟨"Ns.A", some "\x22a\x22\n\x00", ["a"], [⟨"b", "", "", "", none⟩]⟩]⟩
    let j := Json.array (c.descriptors.map Descriptor.toJson)
    let text (path : String) := if path = "change" then String.ofList c.toJson.render
      else if path = "list" then String.ofList j.render
      else "\x7b\x7d"
    let read : Reader := ⟨fun path => .ok (text path), fun _ => "no descriptors"⟩
    (read.Holds "change" c.toJson ∧
      Store.empty.load read "change" = Except.ok <$> (Update.ofChange c).perform Store.empty) ∧
    (read.Holds "list" j ∧
      Store.empty.load read "list" = Except.ok <$> (Update.provide "list" c.descriptors).perform Store.empty) ∧
    ((∀ j, read.Holds "neither" j → ProjectSnapshot.ofJson? j = none ∧ list? Descriptor.ofJson? j = none) ∧
      (Operation.load read "neither").run Store.empty = Store.empty) := by
  intro c j text read
  have hneither : ∀ j, read.Holds "neither" j →
      ProjectSnapshot.ofJson? j = none ∧ list? Descriptor.ofJson? j = none := by
    rintro j ⟨text, htext, hj⟩
    obtain rfl : "\x7b\x7d" = text := Except.ok.inj htext
    have hempty : some (Json.object []) = some j := hj
    cases hempty
    exact ⟨rfl, rfl⟩
  have hchange := (load_of_holds read "change" Store.empty).1 c
  have hlist := (load_of_holds read "list" Store.empty).2.1 c.descriptors
  have hfails := (load_of_holds read "neither" Store.empty).2.2.1 hneither
  exact ⟨⟨hchange.1 rfl, hchange.2 (hchange.1 rfl)⟩, ⟨hlist.1 rfl, hlist.2 (hlist.1 rfl)⟩, hneither, hfails.2⟩

end Store

end

end TagTooltips
