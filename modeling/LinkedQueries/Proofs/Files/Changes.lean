import LinkedQueries.Files
import LinkedQueries.Proofs.Lists

/-!
# What creating and writing a file changes

A path leads to a number, and the content of a file is kept under its number. So writing a file is
seen on all paths that lead to it, however they are spelled and whatever links they go through, and
on no others. Creating a file adds one entry to one directory. A walk that asked for that entry
before came to nothing, and all other walks go on as before.

* `Yields`: what may become of an outcome when one answer gives way to another.
* `ChangedAt`: two file systems that differ in one file.
* `Strides`: how a walk goes on with a name.

Results:
* `walk_addFile`, `follow_addFile`: what becomes of a walk when a file is added where it found none.
* `number?_created`: what was created is found on its path.
* **`create?_changedAt`**: creating a file changes that file and nothing else.
-/

namespace LinkedQueries.Files

/-- The files differ at most in the file with a number: what is on a path stays there, nothing else
is found on a path where nothing was, and the other files hold what they held. -/
structure ChangedAt (before after : Files) (number : Nat) : Prop where
  keeps : ∀ {path : String} {n : Nat}, before.number? path = .ok n → after.number? path = .ok n
  adds : ∀ {path : String} {n : Nat}, after.number? path = .ok n → n ≠ number →
    before.number? path = .ok n
  bytes : ∀ n, n ≠ number → after.bytes? n = before.bytes? n

/-! ## Writing -/

section Write

variable (files : Files) (number : Nat) (bytes : List UInt8)

theorem getElem?_write (n : Nat) : (files.write number bytes).nodes[n]? =
    (files.nodes[n]?).map fun node => if number = n then node.withBytes bytes else node :=
  List.getElem?_modify _ _ _ _

theorem search_write (n : Nat) : (files.write number bytes).search n = files.search n := by
  unfold search
  rw [getElem?_write]
  rcases files.nodes[n]? with _ | (_ | _ | _) <;> by_cases h : number = n <;>
    simp [h, Node.withBytes]

theorem target?_write (n : Nat) : (files.write number bytes).target? n = files.target? n := by
  unfold target?
  rw [getElem?_write]
  rcases files.nodes[n]? with _ | (_ | _ | _) <;> by_cases h : number = n <;>
    simp [h, Node.withBytes]

/-- The content of a file that is there is replaced. -/
theorem bytes?_write (n : Nat) : (files.write number bytes).bytes? n =
    if number = n then (files.bytes? n).map fun _ => bytes else files.bytes? n := by
  unfold bytes?
  rw [getElem?_write]
  rcases files.nodes[n]? with _ | (_ | _ | _) <;> by_cases h : number = n <;>
    simp [h, Node.withBytes]

theorem isSome_bytes?_write (n : Nat) :
    ((files.write number bytes).bytes? n).isSome = (files.bytes? n).isSome := by
  rw [bytes?_write]
  split
  · exact Option.isSome_map
  · rfl

theorem walk_write (purpose : Purpose) (slashed : Bool) : ∀ (names : List String) (n : Nat),
    (files.write number bytes).walk purpose slashed n names = files.walk purpose slashed n names
  | [], _ => rfl
  | name :: ahead, n => by
    unfold walk
    simp only [search_write, target?_write, isSome_bytes?_write,
      walk_write purpose slashed ahead]

theorem follow_write (purpose : Purpose) : ∀ (links : Nat) (slashed : Bool) (n : Nat)
    (names : List String), (files.write number bytes).follow purpose links slashed n names =
      files.follow purpose links slashed n names
  | links, slashed, n, names => by
    unfold follow
    rw [walk_write]
    split
    · rfl
    · rfl
    · cases links with
      | zero => rfl
      | succ links =>
        dsimp only
        rw [follow_write purpose links]

/-- **Writing** changes no way. -/
theorem place?_write (purpose : Purpose) (path : String) :
    (files.write number bytes).place? purpose path = files.place? purpose path := by
  unfold place?
  rw [follow_write]
  rfl

theorem number?_write (path : String) :
    (files.write number bytes).number? path = files.number? path := by
  unfold number?
  rw [place?_write]

theorem changedAt_write : ChangedAt files (files.write number bytes) number where
  keeps h := (files.number?_write number bytes _).trans h
  adds h _ := (files.number?_write number bytes _).symm.trans h
  bytes n hn := by rw [bytes?_write, if_neg (Ne.symm hn)]

end Write

/-- What changes at a file and is then written there has changed at that file. -/
theorem ChangedAt.write {before after : Files} {number : Nat} (h : ChangedAt before after number)
    (bytes : List UInt8) : ChangedAt before (after.write number bytes) number where
  keeps hpath := (changedAt_write after number bytes).keeps (h.keeps hpath)
  adds hpath hn := h.adds ((changedAt_write after number bytes).adds hpath hn) hn
  bytes n hn := ((changedAt_write after number bytes).bytes n hn).trans (h.bytes n hn)

/-! ## Names without an entry -/

section Names

variable {files : Files} {name : String} {n parent : Nat} {entries : Keyed Nat}

/-- A directory that can be searched is there, and so are the one above it and all that it has. -/
theorem lt_of_search (h : files.search n = .ok (parent, entries)) :
    n < files.nodes.length ∧ parent < files.nodes.length ∧
      ∀ other m, entries.find? other = some m → m < files.nodes.length := by
  unfold search at h
  split at h
  · next parent' entries' access hnode =>
    split at h
    · obtain ⟨rfl, rfl⟩ := Prod.mk.inj (Except.ok.inj h)
      have hlt := files.numbers_lt _ (List.mem_of_getElem? hnode)
      refine ⟨(List.getElem?_eq_some_iff.mp hnode).1, hlt _ List.mem_cons_self,
        fun other m hm => ?_⟩
      refine hlt m (List.mem_cons_of_mem _ ?_)
      exact List.mem_map_of_mem (f := (·.2)) (entries'.mem_entries_iff.mpr hm)
    · cases h
  · cases h

theorem entry?_lt {m : Nat} (hsearch : files.search n = .ok (parent, entries))
    (h : entry? n parent entries name = .ok (some m)) : m < files.nodes.length := by
  obtain ⟨hn, hparent, hentries⟩ := lt_of_search hsearch
  unfold entry? at h
  split at h
  · exact Option.some.inj (Except.ok.inj h) ▸ hn
  · split at h
    · exact Option.some.inj (Except.ok.inj h) ▸ hparent
    · split at h
      · cases h
      · exact hentries name m (Except.ok.inj h)

/-- A name without an entry is no name of a directory itself, and not too long. -/
theorem entry?_eq_none (h : entry? n parent entries name = .ok none) :
    (name == ".") = false ∧ (name == "..") = false ∧ ¬ nameLimit < byteCount name ∧
      entries.find? name = none := by
  unfold entry? at h
  split at h
  · cases h
  · next hdot =>
    split at h
    · cases h
    · next hdots =>
      split at h
      · cases h
      · next hlong =>
        exact ⟨Bool.eq_false_iff.mpr hdot, Bool.eq_false_iff.mpr hdots, hlong, Except.ok.inj h⟩

/-- A new entry is found under its name, and all others stay. -/
theorem entry?_alter (h : entry? n parent entries name = .ok none) (number : Nat)
    (other : String) : entry? n parent (entries.alter name fun _ => number) other =
      if other = name then .ok (some number) else entry? n parent entries other := by
  obtain ⟨hdot, hdots, hlong, -⟩ := entry?_eq_none h
  unfold entry?
  rw [Keyed.find?_alter]
  by_cases hother : other = name
  · subst hother
    rw [if_pos rfl, if_pos rfl, hdot, hdots, if_neg Bool.false_ne_true,
      if_neg Bool.false_ne_true, if_neg hlong]
  · rw [if_neg hother, if_neg hother]

end Names

/-- A directory could have an entry of this name, and has none. -/
def IsVacant (files : Files) (directory : Nat) (name : String) : Prop :=
  ∃ parent entries, files.search directory = .ok (parent, entries) ∧
    entry? directory parent entries name = .ok none

theorem IsVacant.eq_none {files : Files} {d parent : Nat} {name : String} {entries : Keyed Nat}
    (h : files.IsVacant d name) (hsearch : files.search d = .ok (parent, entries)) :
    entry? d parent entries name = .ok none := by
  obtain ⟨parent', entries', hsearch', hentry⟩ := h
  obtain ⟨rfl, rfl⟩ := Prod.mk.inj (Except.ok.inj (hsearch.symm.trans hsearch'))
  exact hentry

/-- The name stands for a node in a directory. -/
def HasEntry (files : Files) (directory : Nat) (name : String) (number : Nat) : Prop :=
  ∃ parent entries, files.search directory = .ok (parent, entries) ∧
    entry? directory parent entries name = .ok (some number)

theorem HasEntry.lt {files : Files} {d n : Nat} {name : String} (h : files.HasEntry d name n) :
    n < files.nodes.length := by
  obtain ⟨parent, entries, hsearch, hentry⟩ := h
  exact entry?_lt hsearch hentry

/-! ## What a walk comes to -/

/-- How a walk goes on with a name: it finds no entry for the last one, or meets a link, or comes to
a node and goes on from there. -/
inductive Strides (files : Files) (purpose : Purpose) (slashed : Bool) (directory : Nat)
    (name : String) (ahead : List String) : Stretch → Prop
  | vacant (vacant : files.IsVacant directory name) (last : ahead.isEmpty = true) :
      Strides files purpose slashed directory name ahead (.arrived (.vacant directory name))
  | link {number : Nat} {target : String} (entry : files.HasEntry directory name number)
      (link : files.target? number = some target) :
      Strides files purpose slashed directory name ahead (.link directory target ahead)
  | node {number : Nat} {stretch : Stretch} (entry : files.HasEntry directory name number)
      (node : files.target? number = none)
      (file : ¬ (ahead.isEmpty && slashed && (files.bytes? number).isSome) = true)
      (walk : files.walk purpose slashed number ahead = .ok stretch) :
      Strides files purpose slashed directory name ahead stretch

section Walk

variable {files : Files} {purpose : Purpose} {slashed : Bool} {d n : Nat} {name : String}
  {ahead : List String} {stretch : Stretch}

theorem strides_of_walk (h : files.walk purpose slashed n (name :: ahead) = .ok stretch) :
    Strides files purpose slashed n name ahead stretch := by
  unfold walk at h
  cases hsearch : files.search n with
  | error e => rw [hsearch] at h; cases h
  | ok above =>
    obtain ⟨parent, entries⟩ := above
    simp only [hsearch, bind, Except.bind] at h
    split at h
    · cases h
    · split at h
      · cases h
      · next entry hentry =>
        split at h
        · split at h
          · next hlast =>
            obtain rfl := Except.ok.inj h
            exact .vacant ⟨parent, entries, hsearch, hentry⟩ hlast
          · cases h
        · next number =>
          have hhas : files.HasEntry n name number := ⟨parent, entries, hsearch, hentry⟩
          split at h
          · next target htarget =>
            obtain rfl := Except.ok.inj h
            exact .link hhas htarget
          · next hnode =>
            split at h
            · cases h
            · next hfile => exact .node hhas hnode hfile h

/-- Unless a file is asked for with a slash behind its name, a walk goes on as it can. -/
theorem Strides.walk_eq (h : Strides files purpose slashed n name ahead stretch)
    (hslash : ¬ (purpose == .creating && slashed && ahead.isEmpty) = true) :
    files.walk purpose slashed n (name :: ahead) = .ok stretch := by
  unfold Files.walk
  cases h with
  | vacant hvacant hlast =>
    obtain ⟨parent, entries, hsearch, hentry⟩ := hvacant
    simp only [hsearch, bind, Except.bind, if_neg hslash, hentry]
    exact if_pos hlast
  | link hentry hlink =>
    obtain ⟨parent, entries, hsearch, hentry⟩ := hentry
    simp only [hsearch, bind, Except.bind, if_neg hslash, hentry, hlink]
  | node hentry hnode hfile hwalk =>
    obtain ⟨parent, entries, hsearch, hentry⟩ := hentry
    simp only [hsearch, bind, Except.bind, if_neg hslash, hentry, hnode, if_neg hfile, hwalk]

/-- What a walk finds no entry for is vacant. -/
theorem isVacant_of_walk : ∀ {names : List String} {n : Nat},
    files.walk purpose slashed n names = .ok (.arrived (.vacant d name)) → files.IsVacant d name
  | [], _, h => by cases h
  | _ :: _, _, h => by
    cases strides_of_walk h with
    | vacant hvacant _ => exact hvacant
    | node _ _ _ hwalk => exact isVacant_of_walk hwalk

/-- A link is met in a directory that is there. -/
theorem lt_of_walk_link {target : String} : ∀ {names : List String} {n : Nat},
    n < files.nodes.length → files.walk purpose slashed n names = .ok (.link d target ahead) →
      d < files.nodes.length
  | [], _, _, h => by cases h
  | _ :: _, _, hn, h => by
    cases strides_of_walk h with
    | link => exact hn
    | node hentry _ _ hwalk => exact lt_of_walk_link hentry.lt hwalk

/-- A walk that creates comes to what one that reads comes to. -/
theorem walk_reading : ∀ {names : List String} {n : Nat},
    files.walk .creating slashed n names = .ok stretch →
      files.walk .reading slashed n names = .ok stretch
  | [], _, h => h
  | _ :: _, _, h => by
    have hslash : ∀ b b' : Bool, ¬ (Purpose.reading == .creating && b && b') = true :=
      fun _ _ => Bool.false_ne_true
    cases strides_of_walk h with
    | vacant hvacant hlast => exact (Strides.vacant hvacant hlast).walk_eq (hslash _ _)
    | link hentry hlink => exact (Strides.link hentry hlink).walk_eq (hslash _ _)
    | node hentry hnode hfile hwalk =>
      exact (Strides.node hentry hnode hfile (walk_reading hwalk)).walk_eq (hslash _ _)

end Walk

section Follow

variable {files : Files} {purpose : Purpose} {path : String} {place : Place} {d : Nat}
  {name : String}

theorem isVacant_of_follow : ∀ {links : Nat} {slashed : Bool} {n : Nat} {names : List String},
    files.follow purpose links slashed n names = .ok (.vacant d name) → files.IsVacant d name
  | links, slashed, n, names, h => by
    unfold follow at h
    split at h
    · cases h
    · next place hwalk =>
      obtain rfl := Except.ok.inj h
      exact isVacant_of_walk hwalk
    · split at h
      · cases h
      · split at h
        · cases h
        · exact isVacant_of_follow h

theorem follow_reading : ∀ {links : Nat} {slashed : Bool} {n : Nat} {names : List String},
    files.follow .creating links slashed n names = .ok place →
      files.follow .reading links slashed n names = .ok place
  | links, slashed, n, names, h => by
    unfold follow at h ⊢
    split at h
    · cases h
    · next hwalk =>
      rw [walk_reading hwalk]
      exact h
    · next hwalk =>
      rw [walk_reading hwalk]
      split at h
      · cases h
      · dsimp only
        split at h
        · cases h
        · next htarget =>
          rw [if_neg htarget]
          exact follow_reading h

/-- A path leads somewhere if it can be spelled so and its names do. -/
theorem place?_eq_ok : files.place? purpose path = .ok place ↔
    (path.toList.contains '\x00' = false ∧ path.isEmpty = false ∧
        ¬ pathLimit ≤ byteCount path) ∧
      files.follow purpose linkLimit (FilePath.ofString path).slashed
        (start (FilePath.ofString path) files.working) (FilePath.ofString path).names =
          .ok place := by
  unfold place?
  cases path.toList.contains '\x00' <;> cases path.isEmpty <;>
    by_cases hlong : pathLimit ≤ byteCount path <;> simp [hlong]

theorem isVacant_of_place? (h : files.place? purpose path = .ok (.vacant d name)) :
    files.IsVacant d name :=
  isVacant_of_follow (place?_eq_ok.mp h).2

theorem place?_reading (h : files.place? .creating path = .ok place) :
    files.place? .reading path = .ok place :=
  place?_eq_ok.mpr ((place?_eq_ok.mp h).imp_right follow_reading)

theorem number?_eq_ok {n : Nat} :
    files.number? path = .ok n ↔ files.place? .reading path = .ok (.found n) := by
  unfold number?
  cases files.place? .reading path with
  | error e => simp [bind, Except.bind]
  | ok place => cases place <;> simp [bind, Except.bind]

end Follow

/-! ## Adding -/

section Add

variable {files : Files} {d : Nat} {name : String}

theorem getElem?_addFile {n : Nat} (h : n < files.nodes.length) : (files.addFile d name).nodes[n]? =
    (files.nodes[n]?).map fun node =>
      if d = n then node.withEntry name files.nodes.length else node := by
  unfold addFile add
  rw [List.getElem?_append_left (by simpa using h)]
  exact List.getElem?_modify _ _ _ _

theorem getElem?_addFile_self :
    (files.addFile d name).nodes[files.nodes.length]? = some (.file [] {}) := by
  unfold addFile add
  rw [List.getElem?_append_right (by simp)]
  simp

theorem search_addFile {n : Nat} (h : n < files.nodes.length) : (files.addFile d name).search n =
    (files.search n).map fun (parent, entries) =>
      (parent, if d = n then entries.alter name fun _ => files.nodes.length else entries) := by
  unfold search
  rw [getElem?_addFile h]
  rcases files.nodes[n]? with _ | (_ | ⟨_, _, access⟩ | _) <;> by_cases hd : d = n <;>
    simp [hd, Node.withEntry, Except.map]
  all_goals cases access.search <;> simp

theorem target?_addFile {n : Nat} (h : n < files.nodes.length) :
    (files.addFile d name).target? n = files.target? n := by
  unfold target?
  rw [getElem?_addFile h]
  rcases files.nodes[n]? with _ | (_ | _ | _) <;> by_cases hd : d = n <;>
    simp [hd, Node.withEntry]

/-- The other files hold what they held. -/
theorem bytes?_addFile {n : Nat} (h : n ≠ files.nodes.length) :
    (files.addFile d name).bytes? n = files.bytes? n := by
  rcases Nat.lt_or_ge n files.nodes.length with hlt | hge
  · unfold bytes?
    rw [getElem?_addFile hlt]
    rcases files.nodes[n]? with _ | (_ | _ | _) <;> by_cases hd : d = n <;>
      simp [hd, Node.withEntry]
  · have hlength : (files.addFile d name).nodes.length ≤ n := by
      simp only [addFile, add, List.length_append, List.length_modify, List.length_singleton]
      omega
    unfold bytes?
    rw [List.getElem?_eq_none hge, List.getElem?_eq_none hlength]

theorem bytes?_addFile_self : (files.addFile d name).bytes? files.nodes.length = some [] := by
  unfold bytes?
  rw [getElem?_addFile_self]

theorem target?_addFile_self : (files.addFile d name).target? files.nodes.length = none := by
  unfold target?
  rw [getElem?_addFile_self]

theorem search_addFile_self :
    (files.addFile d name).search files.nodes.length = .error .notDirectory := by
  unfold search
  rw [getElem?_addFile_self]

/-- What a name stands for in a directory after a file was added. -/
theorem entry?_addFile (hvacant : files.IsVacant d name) {n parent : Nat} {entries : Keyed Nat}
    (hsearch : files.search n = .ok (parent, entries)) (other : String) :
    entry? n parent (if d = n then entries.alter name fun _ => files.nodes.length else entries)
        other =
      if d = n ∧ other = name then .ok (some files.nodes.length)
      else entry? n parent entries other := by
  by_cases hd : d = n
  · subst hd
    rw [if_pos rfl, entry?_alter (hvacant.eq_none hsearch)]
    simp only [true_and]
  · rw [if_neg hd, if_neg fun h => hd h.1]

/-- What may become of an outcome when `gone` gives way to `come`: an answer that is not `gone`
stays, and an error stays one. Where refusals are possible `gone` may also become an error. -/
inductive Yields {α : Type} (gone come : α) (refusable : Prop) :
    Except Failure α → Except Failure α → Prop
  | kept {answer : α} (h : answer ≠ gone) : Yields gone come refusable (.ok answer) (.ok answer)
  | replaced : Yields gone come refusable (.ok gone) (.ok come)
  | refused {failure : Failure} (h : refusable) :
      Yields gone come refusable (.ok gone) (.error failure)
  | failed {failure failure' : Failure} :
      Yields gone come refusable (.error failure) (.error failure')

/-- **A walk after a file was added** comes to the file where it came to nothing, and else to where
it came before. A slash behind the name of the file is refused. By induction on the names; the walk
stays among the nodes from before until it comes to the file. -/
theorem walk_addFile (hvacant : files.IsVacant d name) (purpose : Purpose) (slashed : Bool) :
    ∀ (names : List String) {n : Nat}, n < files.nodes.length →
      Yields (.arrived (.vacant d name)) (.arrived (.found files.nodes.length))
        (purpose = .reading) (files.walk purpose slashed n names)
        ((files.addFile d name).walk purpose slashed n names)
  | [], n, _ => .kept (by simp)
  | other :: ahead, n, hn => by
    unfold walk
    rw [search_addFile hn]
    cases hsearch : files.search n with
    | error e => exact .failed
    | ok above =>
      obtain ⟨parent, entries⟩ := above
      simp only [bind, Except.bind, Except.map]
      split
      · exact .failed
      next hslash =>
      rw [entry?_addFile hvacant hsearch]
      by_cases hnew : d = n ∧ other = name
      · -- the walk asks for the entry that was added
        rw [if_pos hnew]
        obtain ⟨rfl, rfl⟩ := hnew
        rw [hvacant.eq_none hsearch]
        simp only [target?_addFile_self, bytes?_addFile_self, Option.isSome_some, Bool.and_true]
        cases ahead with
        | nil =>
          cases slashed with
          | false => exact .replaced
          | true => cases purpose <;> first | exact .refused rfl | exact absurd rfl hslash
        | cons next rest =>
          simp only [List.isEmpty_cons, Bool.false_and, Bool.false_eq_true, if_false]
          unfold walk
          rw [search_addFile_self]
          exact .failed
      · rw [if_neg hnew]
        cases hentry : entry? n parent entries other with
        | error e => exact .failed
        | ok entry =>
          cases entry with
          | none =>
            dsimp only
            split
            · refine .kept fun h => hnew ?_
              obtain ⟨rfl, rfl⟩ := Place.vacant.inj (Stretch.arrived.inj h)
              exact ⟨rfl, rfl⟩
            · exact .failed
          | some m =>
            have hm := entry?_lt hsearch hentry
            simp only [target?_addFile hm, bytes?_addFile (Nat.ne_of_lt hm)]
            split
            · exact .kept (by simp)
            · split
              · exact .failed
              · exact walk_addFile hvacant purpose slashed ahead hm

theorem start_lt (path : FilePath) {n : Nat} (h : n < files.nodes.length) :
    start path n < files.nodes.length := by
  unfold start
  split
  · exact Nat.zero_lt_of_lt h
  · exact h

/-- The same for a walk that follows links, by induction on how many. -/
theorem follow_addFile (hvacant : files.IsVacant d name) (purpose : Purpose) :
    ∀ (links : Nat) (slashed : Bool) {n : Nat} (names : List String), n < files.nodes.length →
      Yields (.vacant d name) (.found files.nodes.length) (purpose = .reading)
        (files.follow purpose links slashed n names)
        ((files.addFile d name).follow purpose links slashed n names)
  | links, slashed, n, names, hn => by
    have hwalk := walk_addFile hvacant purpose slashed names hn
    unfold follow
    generalize hold : files.walk purpose slashed n names = old at hwalk
    generalize (files.addFile d name).walk purpose slashed n names = new at hwalk
    cases hwalk with
    | failed => exact .failed
    | replaced => exact .replaced
    | refused h => exact .refused h
    | @kept stretch h =>
      cases stretch with
      | arrived place => exact .kept fun heq => h (congrArg Stretch.arrived heq)
      | link m target ahead =>
        cases links with
        | zero => exact .failed
        | succ links =>
          dsimp only
          split
          · exact .failed
          · exact follow_addFile hvacant purpose links _ _
              (start_lt _ (lt_of_walk_link hn hold))

/-- **A path after a file was added.** -/
theorem place?_addFile (hvacant : files.IsVacant d name) (purpose : Purpose) (path : String) :
    Yields (.vacant d name) (.found files.nodes.length) (purpose = .reading)
      (files.place? purpose path) ((files.addFile d name).place? purpose path) := by
  unfold place?
  split
  · exact .failed
  split
  · exact .failed
  split
  · exact .failed
  exact follow_addFile hvacant purpose _ _ _ (start_lt _ files.working_lt)

end Add

/-! ## Creating -/

section Create

variable {files : Files} {path : String} {n : Nat}

theorem changedAt_addFile {d : Nat} {name : String} (h : files.IsVacant d name) :
    ChangedAt files (files.addFile d name) files.nodes.length where
  keeps {path n} hpath := by
    have hyields := place?_addFile h .reading path
    rw [number?_eq_ok.mp hpath] at hyields
    generalize hnew : (files.addFile d name).place? .reading path = new at hyields
    cases hyields
    exact number?_eq_ok.mpr hnew
  adds {path n} hpath hn := by
    have hyields := place?_addFile h .reading path
    rw [number?_eq_ok.mp hpath] at hyields
    generalize hold : files.place? .reading path = old at hyields
    cases hyields with
    | kept => exact number?_eq_ok.mpr hold
    | replaced => exact absurd rfl hn
  bytes n hn := bytes?_addFile hn

/-- What was created is found on its path. -/
theorem number?_created {d : Nat} {name : String}
    (h : files.place? .creating path = .ok (.vacant d name)) :
    (files.addFile d name).number? path = .ok files.nodes.length := by
  have hyields := place?_addFile (isVacant_of_place? h) .creating path
  rw [h] at hyields
  generalize hnew : (files.addFile d name).place? .creating path = new at hyields
  cases hyields with
  | kept hne => exact absurd rfl hne
  | replaced => exact number?_eq_ok.mpr (place?_reading hnew)
  | refused hreading => cases hreading

/-- **Creating a file** gives an empty one that is found on its path, and changes nothing else. -/
theorem create?_changedAt {created : Files} (h : files.create? path = .ok (created, n)) :
    created.number? path = .ok n ∧ created.bytes? n = some [] ∧ ChangedAt files created n := by
  unfold create? at h
  cases hplace : files.place? .creating path with
  | error e => rw [hplace] at h; cases h
  | ok place =>
    simp only [hplace, bind, Except.bind] at h
    cases place with
    | found m =>
      dsimp only at h
      split at h
      · next bytes access hnode =>
        split at h
        · obtain ⟨rfl, rfl⟩ := Prod.mk.inj (Except.ok.inj h)
          refine ⟨?_, ?_, files.changedAt_write m []⟩
          · rw [number?_write]
            exact number?_eq_ok.mpr (place?_reading hplace)
          · rw [bytes?_write, if_pos rfl, bytes?, hnode]
            rfl
        · cases h
      · cases h
    | vacant d name =>
      dsimp only at h
      split at h
      · split at h
        · obtain ⟨rfl, rfl⟩ := Prod.mk.inj (Except.ok.inj h)
          exact ⟨number?_created hplace, bytes?_addFile_self,
            changedAt_addFile (isVacant_of_place? hplace)⟩
        · cases h
      · cases h

end Create

end LinkedQueries.Files
