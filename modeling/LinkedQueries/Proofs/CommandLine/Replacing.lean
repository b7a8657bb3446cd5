import LinkedQueries.CommandLine.Run
import LinkedQueries.Proofs.Files.Changes
import LinkedQueries.Proofs.Regroup.Failure
import LinkedQueries.Proofs.View.Content

/-!
# Inputs are read before the output is replaced

Creating the output of a regrouping empties it, and the output may be one of the inputs, under
another spelling of its path, behind a link or as another name of the file. So all that can be wrong
with the formats and the inputs is found out before that, and by then what the files of the inputs
hold has been taken in.

Results:
* `RegroupRequest.load_eq_error_iff`: what keeps a request from being loaded.
* `RegroupRequest.load_eq_ok_dumps`: what is loaded is made of the bytes of the inputs.
* `regroup_ends`: the ways in which a regrouping ends, with the files that each leaves.
* **`regroup_reads_before_writing`**: a run that fails on its dumps calls no sink and changes no
  file, and one that does not fail writes what the inputs held before.
-/

namespace LinkedQueries.CommandLine

/-! ## Loading a request -/

namespace RegroupRequest

variable {q : RegroupRequest} {files : Files}

/-- The format of the output. -/
def targetFormat (q : RegroupRequest) : Except Fault RdfFormat :=
  match q.outputFormat with
  | some name => formatOfName name
  | none => formatOfPath q.output

/-- The dumps in the inputs. -/
def sources (q : RegroupRequest) : Except Fault (List Source) :=
  q.inputs.mapM (sourceOf q.inputFormat)

/-- A request is loaded if all formats are known and all views can be made. -/
theorem load_eq_ok {datasets : Partitions Dataset} {format : RdfFormat} :
    q.load files = .ok (datasets, format) ↔ ∃ sources, q.sources = .ok sources ∧
      q.targetFormat = .ok format ∧ Regroup.union q.resolver files sources = .ok datasets := by
  have hload : q.load files = q.sources.bind fun sources => q.targetFormat.bind fun format =>
      ((Regroup.union q.resolver files sources).mapError fun e =>
        ⟨"Failed to load the input files", some e.message⟩).bind fun datasets =>
          .ok (datasets, format) := by
    unfold load sources targetFormat
    cases q.outputFormat <;> rfl
  rw [hload]
  cases q.sources with
  | error fault => simp [Except.bind]
  | ok sources =>
    cases q.targetFormat with
    | error fault => simp [Except.bind]
    | ok target =>
      cases hunion : Regroup.union q.resolver files sources with
      | error e => simp [Except.bind, Except.mapError, hunion]
      | ok datasets' => simp [Except.bind, Except.mapError, hunion, and_comm, eq_comm]

/-- What is wrong with the formats or the inputs of a request. -/
inductive Obstructed (q : RegroupRequest) (files : Files) : Prop where
  /-- The format of an input cannot be determined. -/
  | inputFormat {path : String} {fault : Fault} (input : path ∈ q.inputs)
      (fails : sourceOf q.inputFormat path = .error fault)
  /-- The format of the output cannot be determined. -/
  | outputFormat {fault : Fault} (fails : q.targetFormat = .error fault)
  /-- No loader reads the format of an input. -/
  | unsupported {path : String} {source : Source} (input : path ∈ q.inputs)
      (source_eq : sourceOf q.inputFormat path = .ok source)
      (fails : ∀ kind, q.resolver.registry.supports source.format kind = false)
  /-- An input cannot be opened. -/
  | unopened {path : String} {failure : Failure} (input : path ∈ q.inputs)
      (fails : files.open? path = .error failure)
  /-- An input cannot be read to its end. -/
  | unread {n : Nat} {path : String} {format : RdfFormat} {opened : Input} {failure : Failure}
      (input : q.inputs[n]? = some path)
      (source_eq : sourceOf q.inputFormat path = .ok ⟨.file path, .rdf format⟩)
      (opens : files.open? path = .ok opened)
      (fails : ReadEvent.allQuads (Rdf.read n format none opened) = .error failure)

/-- The dump in an input is the file at its path. -/
theorem sourceOf_ok {format : Option String} {path : String} {source : Source}
    (h : sourceOf format path = .ok source) : ∃ f, source = ⟨.file path, f⟩ := by
  unfold sourceOf at h
  cases format with
  | some name => exact ⟨_, (Except.ok.inj h).symm⟩
  | none =>
    cases hpath : formatOfPath path with
    | error fault =>
      rw [hpath] at h
      cases h
    | ok f =>
      rw [hpath] at h
      exact ⟨_, (Except.ok.inj h).symm⟩

/-- The inputs and their dumps belong together. -/
theorem getElem?_sources {sources : List Source} (h : q.sources = .ok sources) {n : Nat}
    {source : Source} (hsource : sources[n]? = some source) :
    ∃ path, q.inputs[n]? = some path ∧ sourceOf q.inputFormat path = .ok source :=
  getElem?_of_forall₂ (mapM_eq_ok.mp h).flip hsource

/-- Each input of a request that is loaded has a dataset view. -/
theorem exists_view {loaded : Partitions Dataset × RdfFormat} (h : q.load files = .ok loaded)
    {n : Nat} {path : String} (hpath : q.inputs[n]? = some path) :
    ∃ format view, sourceOf q.inputFormat path = .ok ⟨.file path, format⟩ ∧
      (q.resolver.reading n).datasets files ⟨.file path, format⟩ = .ok view := by
  obtain ⟨sources, hsources, -, hunion⟩ := load_eq_ok.mp h
  obtain ⟨source, hsource, hpath⟩ := getElem?_of_forall₂ (mapM_eq_ok.mp hsources) hpath
  obtain ⟨format, rfl⟩ := sourceOf_ok hpath
  obtain ⟨view, hview⟩ := Regroup.exists_view_of_union hunion hsource
  exact ⟨format, view, hpath, hview⟩

/-- An input without a dataset view is unsupported, or cannot be opened or read. -/
theorem obstructed_of_view {n : Nat} {path : String} {format : SourceFormat} {e : DumpError}
    (hpath : q.inputs[n]? = some path)
    (hsource : sourceOf q.inputFormat path = .ok ⟨.file path, format⟩)
    (hfails : (q.resolver.reading n).datasets files ⟨.file path, format⟩ = .error e) :
    q.Obstructed files := by
  obtain hnone | ⟨f, rfl, hreadable⟩ := standard_cases Rdf.read format
  · exact .unsupported (List.mem_of_getElem? hpath) hsource hnone
  · cases hopen : files.open? path with
    | error failure => exact .unopened (List.mem_of_getElem? hpath) hopen
    | ok input =>
      cases hread : ReadEvent.allQuads (Rdf.read n f none input) with
      | error failure => exact .unread hpath hsource hopen hread
      | ok statements =>
        have haccepted : accepted Rdf.read files { q.resolver.options with reading := n }
            ⟨.file path, .rdf f⟩ f = .ok statements :=
          (congrArg (Except.bind · _) hopen).trans hread
        obtain ⟨view, hview⟩ := exists_view_of_accepted rfl hreadable haccepted
        cases hfails.symm.trans hview

theorem obstructed_of_load {fault : Fault} (h : q.load files = .error fault) :
    q.Obstructed files := by
  cases hsources : q.sources with
  | error fault =>
    obtain ⟨n, ⟨path, hpath, hfails⟩, -⟩ := mapM_eq_error.mp hsources
    exact .inputFormat (List.mem_of_getElem? hpath) hfails
  | ok sources =>
    cases htarget : q.targetFormat with
    | error fault => exact .outputFormat htarget
    | ok target =>
      cases hunion : Regroup.union q.resolver files sources with
      | ok datasets => cases h.symm.trans (load_eq_ok.mpr ⟨sources, hsources, htarget, hunion⟩)
      | error e =>
        obtain ⟨n, ⟨source, hsource, hfails⟩, -⟩ := Regroup.union_eq_error.mp hunion
        obtain ⟨path, hpath, hsource⟩ := getElem?_sources hsources hsource
        obtain ⟨format, rfl⟩ := sourceOf_ok hsource
        exact obstructed_of_view hpath hsource hfails

/-- Nothing is wrong with a request that is loaded. -/
theorem not_obstructed_of_load {loaded : Partitions Dataset × RdfFormat}
    (h : q.load files = .ok loaded) : ¬ q.Obstructed files := by
  intro hobstructed
  cases hobstructed with
  | inputFormat input fails =>
    obtain ⟨n, hpath⟩ := List.mem_iff_getElem?.mp input
    obtain ⟨format, view, hsource, -⟩ := exists_view h hpath
    cases fails.symm.trans hsource
  | outputFormat fails =>
    obtain ⟨-, -, htarget, -⟩ := load_eq_ok.mp h
    cases fails.symm.trans htarget
  | unsupported input source_eq fails =>
    obtain ⟨n, hpath⟩ := List.mem_iff_getElem?.mp input
    obtain ⟨format, view, hsource, hview⟩ := exists_view h hpath
    obtain rfl := Except.ok.inj (source_eq.symm.trans hsource)
    cases (datasets_of_unsupported (q.resolver.reading n) files _ fails).symm.trans hview
  | unopened input fails =>
    obtain ⟨n, hpath⟩ := List.mem_iff_getElem?.mp input
    obtain ⟨format, view, -, hview⟩ := exists_view h hpath
    obtain ⟨bytes, hbytes⟩ := exists_content_of_view hview
    cases fails.symm.trans hbytes
  | @unread n path format opened failure input source_eq opens fails =>
    obtain ⟨format', view, hsource, hview⟩ := exists_view h input
    obtain rfl : SourceFormat.rdf format = format' :=
      congrArg Source.format (Except.ok.inj (source_eq.symm.trans hsource))
    obtain hnone | ⟨f, hf, hreadable⟩ := standard_cases Rdf.read (.rdf format)
    · have hunsupported := datasets_of_unsupported (q.resolver.reading n) files
        ⟨.file path, .rdf format⟩ hnone
      cases hunsupported.symm.trans hview
    · obtain rfl := SourceFormat.rdf.inj hf
      have haccepted : accepted Rdf.read files { q.resolver.options with reading := n }
          ⟨.file path, .rdf format⟩ format = .error failure :=
        (congrArg (Except.bind · _) opens).trans fails
      cases (error_of_accepted rfl hreadable haccepted).symm.trans hview

/-- **A request is not loaded** if and only if something is wrong with its formats or inputs. -/
theorem load_eq_error_iff : (∃ fault, q.load files = .error fault) ↔ q.Obstructed files := by
  constructor
  · rintro ⟨fault, h⟩
    exact obstructed_of_load h
  · intro hobstructed
    cases h : q.load files with
    | error fault => exact ⟨fault, rfl⟩
    | ok loaded => exact absurd hobstructed (not_obstructed_of_load h)

/-- The dump is what the file of an input holds, in the format of the input. -/
structure InputDump (q : RegroupRequest) (files : Files) (path : String) (dump : Source) :
    Prop where
  source : sourceOf q.inputFormat path = .ok ⟨.file path, dump.format⟩
  content : ∃ bytes, files.open? path = .ok ⟨bytes, none⟩ ∧ dump.content = .bytes bytes

/-- **What is loaded** is made of what the files of the inputs hold. -/
theorem load_eq_ok_dumps {datasets : Partitions Dataset} {format : RdfFormat}
    (h : q.load files = .ok (datasets, format)) :
    q.targetFormat = .ok format ∧ ∃ dumps, List.Forall₂ (q.InputDump files) q.inputs dumps ∧
      ∀ others, Regroup.union q.resolver others dumps = .ok datasets := by
  obtain ⟨sources, hsources, htarget, hunion⟩ := load_eq_ok.mp h
  have hcontent : ∀ source ∈ sources, ∃ path format bytes, source = ⟨.file path, format⟩ ∧
      files.open? path = .ok ⟨bytes, none⟩ := by
    intro source hsource
    obtain ⟨n, hn⟩ := List.mem_iff_getElem?.mp hsource
    obtain ⟨path, hpath, hsource⟩ := getElem?_sources hsources hn
    obtain ⟨format, view, hsource', hview⟩ := exists_view h hpath
    obtain ⟨bytes, hbytes⟩ := exists_content_of_view hview
    exact ⟨path, format, bytes, Except.ok.inj (hsource.symm.trans hsource'), hbytes⟩
  refine ⟨htarget, sources.map (Source.pinned files), ?_, fun others => ?_⟩
  · rw [List.forall₂_map_right_iff]
    refine ((List.forall₂_and_left sources q.inputs).mpr
      ⟨hcontent, (mapM_eq_ok.mp hsources).flip⟩).flip.imp ?_
    rintro path _ ⟨⟨path', format, bytes, rfl, hbytes⟩, hsource⟩
    obtain ⟨f, hf⟩ := sourceOf_ok hsource
    obtain ⟨⟨⟩, -⟩ := Source.mk.inj hf
    rw [Source.pinned_file hbytes]
    exact ⟨hsource, bytes, hbytes, rfl⟩
  · rw [← hunion]
    refine Regroup.union_map fun n source hsource => ?_
    obtain ⟨path, format, bytes, rfl, hbytes⟩ := hcontent source (List.mem_of_getElem? hsource)
    exact datasets_pinned hbytes others

end RegroupRequest

/-! ## Running a request -/

/-- How a regrouping ends: something is wrong with its formats or inputs, or the output cannot be
created, or what was loaded is written there, up to a refusal or as a whole. -/
inductive Ends (q : RegroupRequest) (files : Files) : Files × Except Fault String → Prop where
  | notLoaded {fault : Fault} (load : q.load files = .error fault) :
      Ends q files (files, .error fault)
  | notCreated {loaded : Partitions Dataset × RdfFormat} {fault : Fault}
      (load : q.load files = .ok loaded) : Ends q files (files, .error fault)
  | notWritten {datasets : Partitions Dataset} {format : RdfFormat} {created : Files} {number : Nat}
      {writer : GraphWriter} {e : DumpError} {fault : Fault}
      (load : q.load files = .ok (datasets, format))
      (create : files.create? q.output = .ok (created, number))
      (write : Regroup.write GraphWriter.sink datasets (.create q.output format) =
        (writer, .error e)) :
      Ends q files (created.write number writer.content, .error fault)
  | written {datasets : Partitions Dataset} {format : RdfFormat} {created : Files} {number : Nat}
      {writer : GraphWriter} {summary : RegroupSummary}
      (load : q.load files = .ok (datasets, format))
      (create : files.create? q.output = .ok (created, number))
      (write : Regroup.write GraphWriter.sink datasets (.create q.output format) =
        (writer, .ok summary)) :
      Ends q files (created.write number writer.content, .ok (regroupReport summary))

/-- A regrouping ends in one of these ways. -/
theorem regroup_ends (q : RegroupRequest) (files : Files) : Ends q files (regroup q files) := by
  unfold regroup
  cases hload : q.load files with
  | error fault => exact .notLoaded hload
  | ok loaded =>
    obtain ⟨datasets, format⟩ := loaded
    dsimp only
    cases hcreate : files.create? q.output with
    | error failure => exact .notCreated hload
    | ok created =>
      obtain ⟨created, number⟩ := created
      dsimp only
      rcases hwrite : Regroup.write GraphWriter.sink datasets (.create q.output format) with
        ⟨writer, e | summary⟩
      · exact .notWritten hload hcreate hwrite
      · exact .written hload hcreate hwrite

/-- What was created and written is on the path of the output, and nothing else has changed. -/
theorem created_and_written {files created : Files} {path : String} {number : Nat}
    (h : files.create? path = .ok (created, number)) (bytes : List UInt8) :
    (created.write number bytes).number? path = .ok number ∧
    (created.write number bytes).bytes? number = some bytes ∧
    files.ChangedAt (created.write number bytes) number := by
  obtain ⟨hpath, hbytes, hchanged⟩ := Files.create?_changedAt h
  refine ⟨(created.number?_write number bytes path).trans hpath, ?_, hchanged.write bytes⟩
  rw [Files.bytes?_write, if_pos rfl, hbytes]
  rfl

/-- How a run ends that is asked for a regrouping. -/
theorem run_regroup {arguments : List String} {q : RegroupRequest}
    (h : Arguments.read arguments = .ok (.regroup q)) (stdin : Input) (files : Files) :
    run arguments stdin files = match regroup q files with
      | (files, .error fault) => ⟨1, "", fault.report, files⟩
      | (files, .ok report) => ⟨0, "", report, files⟩ := by
  unfold run
  rw [h]
  rfl

/-- **Inputs are read before the output is replaced.** If the dataset view of some dump cannot be
made, a run has the error of the first such dump, and the sink has not been called. A request is not
loaded if and only if something is wrong with the formats or inputs that the arguments name, and
then the program fails and all files are as they were. If it does not fail, the output is what
regrouping writes of what the files of the inputs held before, whether or not a path of an input
leads to the output as well. In any case nothing else has changed, on whatever paths it is. -/
theorem regroup_reads_before_writing :
    (∀ (r : Resolver) (files : Files) (sources : List Source) (n : Nat) (source : Source)
      (e : DumpError), sources[n]? = some source → (r.reading n).datasets files source = .error e →
        ∃ m ≤ n, ∃ first, Regroup.FailsFirst r files sources m first ∧
          ∀ {σ : Type} (sink : Sink σ) (state : σ),
            Regroup.run r files sources sink state = (state, .error first) ∧
            Regroup.run r files sources sink.traced (state, []) = ((state, []), .error first)) ∧
    ∀ (arguments : List String) (q : RegroupRequest),
      Arguments.read arguments = .ok (.regroup q) → ∀ (stdin : Input) (files : Files),
        let outcome := run arguments stdin files
        ((∃ fault, q.load files = .error fault) ↔ q.Obstructed files) ∧
        (q.Obstructed files → outcome.files = files ∧ outcome.exitCode = 1 ∧
          outcome.output = "" ∧ ∃ fault, q.load files = .error fault ∧
            outcome.errors = fault.report) ∧
        (outcome.exitCode = 0 → ∃ dumps format writer summary number,
          List.Forall₂ (q.InputDump files) q.inputs dumps ∧ q.targetFormat = .ok format ∧
          (∀ others, Regroup.run q.resolver others dumps GraphWriter.sink
            (.create q.output format) = (writer, .ok summary)) ∧
          outcome.files.number? q.output = .ok number ∧
          outcome.files.bytes? number = some writer.content) ∧
        (outcome.files = files ∨ ∃ number, outcome.files.number? q.output = .ok number ∧
          files.ChangedAt outcome.files number) := by
  constructor
  · intro r files sources n source e hsource hfails
    obtain ⟨m, hm, first, hfirst⟩ := Regroup.exists_failsFirst hsource hfails
    exact ⟨m, hm, first, hfirst, fun sink state => ⟨Regroup.run_of_failsFirst hfirst sink state,
      Regroup.run_of_failsFirst hfirst sink.traced (state, [])⟩⟩
  · intro arguments q hread stdin files
    refine ⟨RegroupRequest.load_eq_error_iff, ?_⟩
    have hfine : ∀ {loaded}, q.load files = .ok loaded → ¬ q.Obstructed files :=
      RegroupRequest.not_obstructed_of_load
    have hends := regroup_ends q files
    rw [run_regroup hread]
    generalize regroup q files = result at hends ⊢
    cases hends with
    | @notLoaded fault load =>
      exact ⟨fun _ => ⟨rfl, rfl, rfl, fault, load, rfl⟩, nofun, .inl rfl⟩
    | notCreated load =>
      exact ⟨fun h => absurd h (hfine load), nofun, .inl rfl⟩
    | @notWritten datasets format created number writer e fault load create write =>
      obtain ⟨hpath, -, hchanged⟩ := created_and_written create writer.content
      exact ⟨fun h => absurd h (hfine load), nofun, .inr ⟨number, hpath, hchanged⟩⟩
    | @written datasets format created number writer summary load create write =>
      obtain ⟨hpath, hbytes, hchanged⟩ := created_and_written create writer.content
      refine ⟨fun h => absurd h (hfine load), fun _ => ?_, .inr ⟨number, hpath, hchanged⟩⟩
      obtain ⟨htarget, dumps, hdumps, hunion⟩ := RegroupRequest.load_eq_ok_dumps load
      refine ⟨dumps, format, writer, summary, number, hdumps, htarget, fun others => ?_, hpath,
        hbytes⟩
      rw [Regroup.run, hunion others]
      exact write

/-- A file is replaced by what it held, through a link in another directory; and it stays as it is
if an input cannot be opened, because a slash behind its path asks for a directory. -/
theorem regroup_reads_before_writing_in_place :
    let content := Utf8.encode "<x:a> <x:p> <x:b> <x:g> .\n".toList
    let files := (Files.empty.withFile "data.nq" content).withLink "d/link.nq" "../data.nq"
    let output := "d/../d/link.nq"
    let alone := ["regroup", "-f", "data.nq", "-t", output]
    let spoilt := ["regroup", "-f", "data.nq", "-f", "data.nq/", "-t", output]
    let request (inputs : List String) : RegroupRequest := ⟨inputs, none, output, none, none⟩
    (∃ dumps format writer summary number,
      List.Forall₂ ((request ["data.nq"]).InputDump files) ["data.nq"] dumps ∧
      (request ["data.nq"]).targetFormat = .ok format ∧
      (∀ others, Regroup.run (request ["data.nq"]).resolver others dumps GraphWriter.sink
        (.create output format) = (writer, .ok summary)) ∧
      (run alone ⟨[], none⟩ files).files.number? output = .ok number ∧
      (run alone ⟨[], none⟩ files).files.bytes? number = some writer.content) ∧
    (run alone ⟨[], none⟩ files).files.number? "data.nq" = files.number? output ∧
    (run alone ⟨[], none⟩ files).files.open? "data.nq" = .ok ⟨content, none⟩ ∧
    (run spoilt ⟨[], none⟩ files).files = files ∧ (run spoilt ⟨[], none⟩ files).exitCode = 1 := by
  intro content files output alone spoilt request
  have halone := (regroup_reads_before_writing.2 alone (request ["data.nq"])
    (by decide +kernel) ⟨[], none⟩ files).2.2.1 (by decide +kernel)
  have hopen : files.open? "data.nq/" = .error .notDirectory := by decide +kernel
  have hspoilt := (regroup_reads_before_writing.2 spoilt (request ["data.nq", "data.nq/"])
    (by decide +kernel) ⟨[], none⟩ files).2.1
    (.unopened (List.mem_cons_of_mem _ List.mem_cons_self) hopen)
  exact ⟨halone, by decide +kernel, by decide +kernel, hspoilt.1, hspoilt.2.1⟩

end LinkedQueries.CommandLine
