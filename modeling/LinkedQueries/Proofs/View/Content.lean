import LinkedQueries.Proofs.View.Agreement
import LinkedQueries.Proofs.View.Resolution
import LinkedQueries.Rdf.Reader

/-!
# Views are made from contents

A dataset view depends on the format of a dump and on what opening the dump gives, and on nothing
else of the files. So a file may be replaced by its bytes, and what becomes of the file afterwards
does not matter.

Results:
* `standard_cases`: a format has no standard loader, or its dumps are read as RDF.
* `exists_content_of_view`: a file with a dataset view has a content.
* `datasets_pinned`: its view is that of its bytes.
-/

namespace LinkedQueries

/-! ## The standard loaders -/

section Views

variable {read : Nat → StatementReader} {options : ViewOptions} {files others : Files}
  {source source' : Source} {format : RdfFormat}

/-- A format without loaders has no dataset view. -/
theorem datasets_of_unsupported (r : Resolver) (files : Files) (source : Source)
    (h : ∀ kind, r.registry.supports source.format kind = false) :
    r.datasets files source = .error (.unsupported source.format .datasets) := by
  have hplan : r.plan source.format .datasets = .error (.unsupported source.format .datasets) :=
    Resolver.plan_eq_error.mpr ⟨fun k _ => h k, rfl⟩
  unfold Resolver.datasets
  rw [hplan]
  rfl

/-- The standard loaders are those of the formats of RDF that can be read. -/
theorem standard_cases (read : Nat → StatementReader) (format : SourceFormat) :
    (∀ kind, (Registry.standard read).supports format kind = false) ∨
      ∃ f, format = .rdf f ∧ ∀ profiles, f ≠ .jsonLd profiles := by
  cases format with
  | unknown name => exact .inl fun kind => by cases kind <;> rfl
  | rdf f =>
    cases f with
    | jsonLd profiles => exact .inl fun kind => by cases kind <;> rfl
    | _ => exact .inr ⟨_, rfl, nofun⟩

/-- A dump whose statements are accepted has a dataset view. -/
theorem exists_view_of_accepted (hsource : source.format = .rdf format)
    (hformat : ∀ profiles, format ≠ .jsonLd profiles) {statements : List Quad}
    (haccepted : accepted read files options source format = .ok statements) :
    ∃ view, (standardResolver read options).datasets files source = .ok view := by
  have hloaded := loadQuads_eq read files options hsource
  rw [haccepted] at hloaded
  cases hgraphs : format.hasGraphs with
  | false =>
    obtain ⟨-, -, hdatasets⟩ := views_of_triples read files options hsource hgraphs
    rw [loadTriples, hloaded] at hdatasets
    exact ⟨_, hdatasets⟩
  | true =>
    obtain ⟨-, -, hdatasets⟩ := views_of_quads read files options hsource hgraphs hformat
    rw [hloaded] at hdatasets
    exact ⟨_, hdatasets⟩

theorem error_of_accepted (hsource : source.format = .rdf format)
    (hformat : ∀ profiles, format ≠ .jsonLd profiles) {failure : Failure}
    (haccepted : accepted read files options source format = .error failure) :
    (standardResolver read options).datasets files source = .error (.io failure) :=
  ((views_agree read files options hsource hformat).1 failure haccepted).2.2

/-- Dumps of one format that are opened alike have the same dataset view. -/
theorem datasets_congr (hformat : source.format = source'.format)
    (hopen : source.open? files = source'.open? others) :
    (standardResolver read options).datasets files source =
      (standardResolver read options).datasets others source' := by
  obtain hnone | ⟨format, hsource, hreadable⟩ := standard_cases read source.format
  · rw [datasets_of_unsupported (standardResolver read options) files source hnone,
      datasets_of_unsupported (standardResolver read options) others source' (hformat ▸ hnone),
      hformat]
  · have hsource' : source'.format = .rdf format := hformat ▸ hsource
    have hloaded : loadQuads read files source options = loadQuads read others source' options := by
      rw [loadQuads_eq read files options hsource, loadQuads_eq read others options hsource',
        accepted, hopen]
      rfl
    cases hgraphs : format.hasGraphs with
    | false =>
      obtain ⟨-, -, hview⟩ := views_of_triples read files options hsource hgraphs
      obtain ⟨-, -, hview'⟩ := views_of_triples read others options hsource' hgraphs
      rw [hview, hview', loadTriples, loadTriples, hloaded]
    | true =>
      obtain ⟨-, -, hview⟩ := views_of_quads read files options hsource hgraphs hreadable
      obtain ⟨-, -, hview'⟩ := views_of_quads read others options hsource' hgraphs hreadable
      rw [hview, hview', hloaded]

end Views

/-! ## Files -/

/-- What can be opened is a file with its content, or a directory. -/
theorem Files.open?_ok {files : Files} {path : String} {input : Input}
    (h : files.open? path = .ok input) :
    input.failure = none ∨ input = ⟨[], some .isDirectory⟩ := by
  unfold Files.open? at h
  cases hnumber : files.number? path with
  | error e => rw [hnumber] at h; cases h
  | ok n =>
    simp only [hnumber, bind, Except.bind] at h
    split at h
    · split at h
      · exact .inl (Except.ok.inj h ▸ rfl)
      · cases h
    · split at h
      · exact .inr (Except.ok.inj h).symm
      · cases h
    · cases h

/-- A directory cannot be read. -/
theorem allQuads_read_failing (n : Nat) (format : RdfFormat) (failure : Failure) :
    ReadEvent.allQuads (Rdf.read n format none ⟨[], some failure⟩) = .error failure := by
  cases format <;> rfl

/-! ## Files as bytes -/

/-- What the file at a path serves when it is opened; nothing if there is none. -/
def Files.served (files : Files) (path : String) : List UInt8 :=
  match files.open? path with
  | .ok input => input.bytes
  | .error _ => []

/-- The dump of what its file holds. -/
def Source.pinned (files : Files) (source : Source) : Source :=
  match source.content with
  | .file path => ⟨.bytes (files.served path), source.format⟩
  | .bytes _ => source

section Pinned

variable {files : Files} {path : String} {format : SourceFormat} {options : ViewOptions}

/-- A dump with a dataset view is a file that can be read to its end. -/
theorem exists_content_of_view {view : Partitions Dataset}
    (h : (standardResolver Rdf.read options).datasets files ⟨.file path, format⟩ = .ok view) :
    ∃ bytes, files.open? path = .ok ⟨bytes, none⟩ := by
  obtain hnone | ⟨f, rfl, hreadable⟩ := standard_cases Rdf.read format
  · cases (datasets_of_unsupported _ files ⟨.file path, format⟩ hnone).symm.trans h
  · cases hopen : files.open? path with
    | error failure =>
      have haccepted : accepted Rdf.read files options ⟨.file path, .rdf f⟩ f = .error failure :=
        congrArg (Except.bind · _) hopen
      cases (error_of_accepted rfl hreadable haccepted).symm.trans h
    | ok input =>
      obtain hfine | rfl := Files.open?_ok hopen
      · exact ⟨input.bytes, congrArg Except.ok (congrArg (Input.mk input.bytes) hfine)⟩
      · have haccepted : accepted Rdf.read files options ⟨.file path, .rdf f⟩ f =
            .error .isDirectory :=
          (congrArg (Except.bind · _) hopen).trans (allQuads_read_failing _ f _)
        cases (error_of_accepted rfl hreadable haccepted).symm.trans h

variable {bytes : List UInt8} (hbytes : files.open? path = .ok ⟨bytes, none⟩)
include hbytes

theorem Source.pinned_file :
    Source.pinned files ⟨.file path, format⟩ = ⟨.bytes bytes, format⟩ := by
  simp only [Source.pinned, Files.served, hbytes]

/-- The dataset view of a file is that of what it holds. -/
theorem datasets_pinned (others : Files) :
    (standardResolver Rdf.read options).datasets others (Source.pinned files ⟨.file path, format⟩) =
      (standardResolver Rdf.read options).datasets files ⟨.file path, format⟩ := by
  rw [Source.pinned_file hbytes]
  exact datasets_congr rfl hbytes.symm

end Pinned

end LinkedQueries
