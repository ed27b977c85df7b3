import ContainerConstruction.Proofs.Request.RoundTrip

/-!
# What may stand on the wire

A request or a response is read back from its payload and from every other text that stands for it.  A text
that repeats a member, and with it every input that begins like such a text, is refused.
-/

namespace ContainerConstruction

open Json (Document Layout Position Reader Repeats Rewrites)
open Json.Document (Blanks Written)

/-- What holds of a type that is sent: `layout` says in which other ways its written values may be written. -/
structure WireLaws {α : Type} (read : Reader α) (layout : Layout) (write : α → Json) : Prop where
  /-- A value is read back from its payload. -/
  recovers (value : α) : read.ofInput (Text.Utf8.decode (Text.Utf8.ofText (write value).render)) = .ok value
  /-- A value is read from every text of a document that stands for it, with any blanks around its tokens. -/
  tolerates (value : α) {document : Document} {before text after : List Char}
    (hrewrites : Rewrites layout Position.maximalDepth (write value) document) (hbefore : Blanks before)
    (htext : Written document text) (hafter : Blanks after) :
    read.ofInput (Text.Utf8.decode (Text.Utf8.ofText (String.ofList (before ++ (text ++ after))))) = .ok value
  /-- A text in which a member is repeated is refused. -/
  refuses {document : Document} {before text after : List Char} (hrepeats : Repeats layout document)
    (hbefore : Blanks before) (htext : Written document text) (hafter : Blanks after) :
    ∃ error, read.ofInput
      (Text.Utf8.decode (Text.Utf8.ofText (String.ofList (before ++ (text ++ after))))) = .error error
  /-- So is every input that repeats a member before it is seen to be broken, if it is. -/
  refusesBytes {bytes : List UInt8} (hrepeats : Repeats layout (Document.scan (Text.Utf8.decode bytes)).1) :
    ∃ error, read.ofInput (Text.Utf8.decode bytes) = .error error

section

variable {α : Type} {read : Reader α} {layout : Layout} {write : α → Json} {least : Nat}

theorem scan_ofText {document : Document} {before text after : List Char} (hbefore : Blanks before)
    (htext : Written document text) (hafter : Blanks after) :
    Document.scan (Text.Utf8.decode (Text.Utf8.ofText (String.ofList (before ++ (text ++ after))))) =
      (document, true) := by
  rw [Text.Utf8.decode_ofText, String.toList_ofList, Document.scan_of_written hbefore htext hafter]

/-- Input that repeats a member is refused. -/
theorem ofInput_of_repeats (h : Json.Reader.Conforms read layout write least) {input : Json.Input}
    (hrepeats : Repeats layout (Document.scan input).1) : ∃ error, read.ofInput input = .error error := by
  cases hread : read .top (Document.scan input).1 with
  | error error => exact ⟨error, by simp only [Json.Reader.ofInput, hread]⟩
  | ok value => exact absurd hrepeats (h.unrepeated hread)

theorem wireLaws_of_conforms (h : Json.Reader.Conforms read layout write least)
    (hleast : least ≤ Position.maximalDepth) : WireLaws read layout write where
  recovers := ofInput_render h.recovers hleast
  tolerates value document before text after hrewrites hbefore htext hafter := by
    have hread : read .top document = .ok value := h.read_eq value hleast (Nat.le_refl _) hrewrites
    simp only [Json.Reader.ofInput, scan_ofText hbefore htext hafter, hread, if_true]
  refuses {document before text after} hrepeats hbefore htext hafter := by
    refine ofInput_of_repeats h ?_
    rw [scan_ofText hbefore htext hafter]
    exact hrepeats
  refusesBytes := ofInput_of_repeats h

end

/-- Requests and responses are read back from everything that stands for them, and from nothing that repeats
a member. -/
theorem wire_laws : WireLaws Request.reader Request.layout Request.toJson ∧
    WireLaws Response.reader Response.layout Response.toJson :=
  ⟨wireLaws_of_conforms Request.conforms (by decide), wireLaws_of_conforms Response.conforms (by decide)⟩

/-- A directory is entered although its arguments stand in front of the name of the operation and have a member
that nobody reads.  It is not if they name the directory twice. -/
theorem wire_laws_reordered :
    Request.reader.ofInput (Text.Utf8.decode (Text.Utf8.ofText (Json.object
      [("args", .object [("note", .null), ("dir", .string "/")]), ("method", .string "Chdir")]).render)) =
        .ok (.chdir ⟨"/"⟩) ∧
    ∃ error, Request.reader.ofInput (Text.Utf8.decode (Text.Utf8.ofText (Json.object
      [("method", .string "Chdir"), ("args", .object [("dir", .string "/"), ("dir", .string ".")])]).render)) =
        .error error := by
  have hcase : ("Chdir", ChdirArgs.layout) ∈ Request.cases := by simp [Request.cases]
  constructor
  · have hnote : Json.Surplus ["dir"] 125 [(some "note", .null)] :=
      List.forall_mem_singleton.mpr ⟨"note", rfl, by decide, rfl⟩
    have hargs : Rewrites ChdirArgs.layout 126 (ChdirArgs.toJson ⟨"/"⟩)
        (Document.ofJson (.object [("note", .null), ("dir", .string "/")])) :=
      .record (.kept List.mem_cons_self (.fixed _) .nil) hnote (List.Perm.swap _ _ _)
    have hrequest : Rewrites Request.layout Position.maximalDepth (Request.toJson (.chdir ⟨"/"⟩))
        (Document.ofJson (.object
          [("args", .object [("note", .null), ("dir", .string "/")]), ("method", .string "Chdir")])) :=
      .tagged hcase hargs (List.forall_mem_nil _) (List.Perm.swap _ _ _)
    have hread := wire_laws.1.tolerates _ hrequest Document.blanks_nil
      (Document.written_print _ ⟨⟨trivial, trivial, trivial⟩, trivial, trivial⟩) Document.blanks_nil
    simpa [Json.render] using hread
  · have hargs : Repeats ChdirArgs.layout
        (Document.ofJson (.object [("dir", .string "/"), ("dir", .string ".")])) :=
      .member List.mem_cons_self (show 1 < 2 by decide)
    have hrequest : Repeats Request.layout (Document.ofJson (.object
        [("method", .string "Chdir"), ("args", .object [("dir", .string "/"), ("dir", .string ".")])])) :=
      .inContent List.mem_cons_self (.text "Chdir") hcase (List.mem_cons_of_mem _ List.mem_cons_self) hargs
    have hread := wire_laws.1.refuses hrequest Document.blanks_nil
      (Document.written_print _ ⟨trivial, ⟨trivial, trivial, trivial⟩, trivial⟩) Document.blanks_nil
    simpa [Json.render] using hread

end ContainerConstruction
