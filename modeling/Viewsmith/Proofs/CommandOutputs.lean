import Mathlib.Data.List.Nodup
import Viewsmith.Command.Run
import Viewsmith.Proofs.MediaClosure

/-!
# The files that the command writes

A selection is compiled before anything is written, so that a failure up to there leaves the files
of the machine alone. What is written then has distinct names: the module and the style sheet of the
fonts have extensions that no image has, and the images are named for their hashes.

Distinct names are not yet distinct files. A hash is free text, and a name with a slash in it is a
path: `a.png` and `./a.png` lead to one place, where the later output replaces the earlier one
(`Command.dotted_hash_overwrites`). This is the only way: an output stays as it was written unless
the name of a later one leads to the same place, and then both are images, one of them with a slash
in its name (`Compiled.eq_or_slash_of_find?_eq`).

## Main definitions

* `Workflow.written`: the files that a workflow writes.
* `Job.outcome`: how a job ends on a folder, and the folder afterwards.
* `Job.Quiet`: the jobs that make and write nothing.

## Main statements

* `Selection.compiled_quiet`: nothing is written before the module is there.
* `Compiled.nodup_names`: the names of the outputs are distinct.
* `Folder.getLast?_of_find?`: a place is named for the last part of the path to it.
* `Job.entry?_of_outcome_writeFiles`: what becomes of a file that is written among others.
* `Command.outputs_of_compile`: the outputs of a command.
-/

namespace Viewsmith

/-! ### Jobs on a folder -/

/-- The files that a workflow writes when it is carried out on a folder, in order. -/
def Workflow.written {α : Type} : Workflow α → Folder → List (String × List UInt8)
  | .done _, _ => []
  | .read path next, folder => (next (folder.read path)).written folder
  | .makeFolders path next, folder =>
    (next (folder.makeFolders path).1).written (folder.makeFolders path).2
  | .write path bytes next, folder =>
    (if (folder.write path bytes).1 then [(path, bytes)] else []) ++
      (next (folder.write path bytes).1).written (folder.write path bytes).2
  | .warn _ next, folder => next.written folder

/-- Two workflows write one after the other, the second on the folder that the first leaves. -/
theorem Workflow.written_bind {α β : Type} (w : Workflow α) (f : α → Workflow β) (folder : Folder) :
    (w >>= f).written folder = w.written folder ++
      (f (w.run folder).1).written (w.run folder).2 := by
  change (w.bind f).written folder = _
  induction w generalizing folder with
  | done a => rfl
  | read path next ih => exact ih _ _
  | makeFolders path next ih => exact ih _ _
  | write path bytes next ih =>
    simp only [Workflow.bind, written, ih, Workflow.run, List.append_assoc]
  | warn text next ih => exact ih _

/-- The failures to make folders and write files. -/
def Failure.ofWriting : Failure → Bool
  | .makeFolder _ | .write _ => true
  | _ => false

namespace Job

variable {α β : Type}

/-- How a job ends on a folder, and the folder afterwards. -/
def outcome (j : Job α) (folder : Folder) : Except Failure α × Folder := j.run.run folder

/-- The files that a job writes. -/
def written (j : Job α) (folder : Folder) : List (String × List UInt8) :=
  Workflow.written j.run folder

/-- After a job that ends well the next one goes on with its result. -/
theorem outcome_bind_of_ok {j : Job α} {folder after : Folder} {a : α}
    (h : j.outcome folder = (.ok a, after))
    (f : α → Job β) : (j >>= f).outcome folder = (f a).outcome after := by
  change (j.run >>= ExceptT.bindCont f).run folder = _
  change j.run.run folder = _ at h
  rw [Workflow.run_bind, h]
  rfl

/-- After a job that fails nothing more is done. -/
theorem outcome_bind_of_error {j : Job α} {folder after : Folder} {failure : Failure}
    (h : j.outcome folder = (.error failure, after)) (f : α → Job β) :
    (j >>= f).outcome folder = (.error failure, after) := by
  change (j.run >>= ExceptT.bindCont f).run folder = _
  change j.run.run folder = _ at h
  rw [Workflow.run_bind, h]
  rfl

/-- After a job that ends well the next one writes its files too. -/
theorem written_bind_of_ok {j : Job α} {folder after : Folder} {a : α}
    (h : j.outcome folder = (.ok a, after))
    (f : α → Job β) : (j >>= f).written folder = j.written folder ++ (f a).written after := by
  change (j.run >>= ExceptT.bindCont f).written folder = _
  change j.run.run folder = _ at h
  rw [Workflow.written_bind, h]
  rfl

/-- After a job that fails nothing more is written. -/
theorem written_bind_of_error {j : Job α} {folder after : Folder} {failure : Failure}
    (h : j.outcome folder = (.error failure, after)) (f : α → Job β) :
    (j >>= f).written folder = j.written folder := by
  change (j.run >>= ExceptT.bindCont f).written folder = _
  change j.run.run folder = _ at h
  rw [Workflow.written_bind, h]
  exact List.append_nil _

/-- Two jobs in a row end well only if both do. -/
theorem exists_of_outcome_bind_ok {j : Job α} {f : α → Job β} {folder after : Folder} {b : β}
    (h : (j >>= f).outcome folder = (.ok b, after)) :
    ∃ a between, j.outcome folder = (.ok a, between) ∧ (f a).outcome between = (.ok b, after) := by
  rcases hj : j.outcome folder with ⟨failure | a, between⟩
  · rw [outcome_bind_of_error hj] at h
    cases h
  · exact ⟨a, between, rfl, (outcome_bind_of_ok hj f).symm.trans h⟩

/-- A check that is passed gives the value that was checked. -/
theorem outcome_check_eq_ok {ε : Type} {failure : ε → Failure} {r : Except ε α}
    {folder after : Folder} {a : α}
    (h : (check failure r).outcome folder = (.ok a, after)) : r = .ok a := by
  cases r with
  | ok b => exact congrArg Except.ok (Except.ok.inj (congrArg Prod.fst h))
  | error e => cases congrArg Prod.fst h

/-! ### Jobs that write nothing -/

/-- A job that leaves every folder as it is. -/
def Quiet (j : Job α) : Prop := ∀ folder, (j.outcome folder).2 = folder ∧ j.written folder = []

/-- Returning a value writes nothing. -/
theorem quiet_pure (a : α) : Quiet (pure a : Job α) := fun _ => ⟨rfl, rfl⟩

/-- A check writes nothing. -/
theorem quiet_check {ε : Type} (failure : ε → Failure) (r : Except ε α) :
    Quiet (check failure r) := by
  cases r with
  | ok a => exact fun _ => ⟨rfl, rfl⟩
  | error e => exact fun _ => ⟨rfl, rfl⟩

/-- Reading a file writes nothing. -/
theorem quiet_read (path : String) (failure : Failure) : Quiet (read path failure) := by
  intro folder
  change (Workflow.run _ folder).2 = folder ∧ Workflow.written _ folder = []
  simp only [read, ExceptT.mk, ExceptT.run, Workflow.run, Workflow.written]
  cases folder.read path with
  | none => exact ⟨rfl, rfl⟩
  | some text => exact ⟨rfl, rfl⟩

/-- Two jobs that write nothing write nothing one after the other. -/
theorem Quiet.bind {j : Job α} {f : α → Job β} (hj : j.Quiet) (hf : ∀ a, (f a).Quiet) :
    (j >>= f).Quiet := by
  intro folder
  obtain ⟨hfolder, hwritten⟩ := hj folder
  rcases h : j.outcome folder with ⟨failure | a, after⟩ <;> rw [h] at hfolder <;> subst hfolder
  · rw [outcome_bind_of_error h, written_bind_of_error h]
    exact ⟨rfl, hwritten⟩
  · rw [outcome_bind_of_ok h, written_bind_of_ok h, hwritten]
    exact hf a _

/-- Warning writes nothing. -/
theorem quiet_warn (texts : List String) : Quiet (warn texts) := by
  induction texts with
  | nil => exact quiet_pure ()
  | cons text rest ih => exact Quiet.bind (fun _ => ⟨rfl, rfl⟩) fun _ => ih

end Job

namespace Selection

open Job

/-- Reading the options writes nothing. -/
theorem options_quiet (s : Selection) : s.options.Quiet := by
  unfold options
  cases s.config with
  | none => exact (quiet_pure _).bind fun _ => quiet_pure _
  | some path =>
    exact (quiet_read path _).bind fun _ => (quiet_check _ _).bind fun _ => quiet_pure _

/-- Reading the catalog writes nothing. -/
theorem catalog_quiet (options : Options) : (catalog options).Quiet := by
  unfold catalog
  cases options.hostedFonts with
  | none => exact quiet_pure _
  | some path => exact (quiet_read path _).bind fun _ => quiet_check _ _

/-- Loading a snapshot writes nothing. -/
theorem load_quiet (s : Selection) : s.load.Quiet := by
  refine (quiet_read _ _).bind fun text => (quiet_check _ _).bind fun snapshot => ?_
  refine s.options_quiet.bind fun options => ?_
  exact (catalog_quiet options).bind fun _ => quiet_pure _

/-- Nothing is made or written before the module of a selection is there. -/
theorem compiled_quiet (s : Selection) : s.compiled.Quiet := by
  refine s.load_quiet.bind ?_
  rintro ⟨snapshot, compiler⟩
  refine (quiet_check _ _).bind fun root => ?_
  exact (quiet_warn _).bind fun _ => quiet_check _ _

/-- The module of a selection is what its compiler gives for some scene. -/
theorem exists_compile_of_compiled {s : Selection} {folder after : Folder} {m : Compiled}
    (h : s.compiled.outcome folder = (.ok m, after)) :
    ∃ (compiler : Compiler) (scene : Scene) (root : Nat) (source : Source),
      (compiler.compile scene root source).1.result = .ok m := by
  obtain ⟨⟨snapshot, compiler⟩, _, -, h⟩ := exists_of_outcome_bind_ok h
  obtain ⟨root, _, -, h⟩ := exists_of_outcome_bind_ok h
  obtain ⟨_, _, -, h⟩ := exists_of_outcome_bind_ok h
  exact ⟨compiler, snapshot.scene, root, snapshot.source, outcome_check_eq_ok h⟩

end Selection

/-! ### Names of outputs -/

/-- The images that are collected are recognized images of the source. -/
def Collected.From (collected : Collected) (source : Source) : Prop :=
  ∀ media ∈ collected.media, ∃ hash, source.file? hash = some media

/-- The images of a module come from the source, under distinct names. -/
theorem Compiler.media_of_compile_ok {c : Compiler} {scene : Scene} {root : Nat} {source : Source}
    {m : Compiled} (h : (c.compile scene root source).1.result = .ok m) :
    m.assets.From source ∧ (m.assets.media.map Media.filename).Nodup := by
  obtain ⟨e, log, assets, hlower, -, hassets⟩ := lower_of_compile_ok h
  obtain ⟨-, -, hsound, -⟩ := Scene.shows_of_lower_ok hlower
  rw [hassets]
  refine ⟨fun media hmem => ?_, hsound.nodup_filenames⟩
  obtain ⟨entry, hentry, rfl⟩ := List.mem_map.mp hmem
  exact ⟨entry.1, hsound.file entry hentry⟩

namespace Compiled

variable {m : Compiled} {source : Source}

/-- The letters that the names of images end with. -/
def imageEnds : List Char := "gpfm4iv".toList

/-- The name of a recognized image ends with one of these letters. -/
theorem exists_getLast?_filename {hash : String} {media : Media}
    (h : source.file? hash = some media) :
    ∃ c ∈ imageEnds, media.filename.toList.getLast? = some c := by
  obtain ⟨-, -, hname⟩ := Source.image_of_file? h
  rw [hname, String.toList_append, List.getLast?_append]
  cases media.kind <;> exact ⟨_, by decide, rfl⟩

/-- The name of the file of a module ends with an `x`. -/
theorem getLast?_fileName (m : Compiled) : m.fileName.toList.getLast? = some 'x' := by
  rw [fileName, String.toList_append, List.getLast?_append]
  rfl

/-- The names of the outputs: the module, the images and the sheet of fonts. -/
theorem map_fst_files (m : Compiled) :
    m.files.map Prod.fst = (if m.code.isEmpty then [] else [m.name ++ ".tsx"]) ++
      m.assets.media.map Media.filename ++
      (if m.assets.fonts.isEmpty then [] else ["fonts.css"]) := by
  rw [files, List.map_append, List.map_append, List.map_map, apply_ite (List.map Prod.fst),
    apply_ite (List.map Prod.fst)]
  rfl

/-- The names of the outputs of a module are distinct when those of its images are: the last letter
tells the module, the images and the style sheet apart. -/
theorem nodup_names (hmedia : m.assets.From source)
    (hnodup : (m.assets.media.map Media.filename).Nodup) : (m.files.map Prod.fst).Nodup := by
  have hlast {name : String} (h : name ∈ m.assets.media.map Media.filename) :
      ∃ c ∈ imageEnds, name.toList.getLast? = some c := by
    obtain ⟨media, hmem, rfl⟩ := List.mem_map.mp h
    obtain ⟨hash, hfile⟩ := hmedia media hmem
    exact exists_getLast?_filename hfile
  have hmodule : m.fileName ∉ m.assets.media.map Media.filename := by
    intro h
    obtain ⟨c, hc, hend⟩ := hlast h
    rw [getLast?_fileName] at hend
    cases hend
    exact absurd hc (by decide)
  have hsheet : "fonts.css" ∉ m.assets.media.map Media.filename := by
    intro h
    obtain ⟨c, hc, hend⟩ := hlast h
    cases hend
    exact absurd hc (by decide)
  have hdiffer : m.fileName ≠ "fonts.css" := by
    intro h
    have hend := m.getLast?_fileName
    rw [h] at hend
    exact absurd hend (by decide)
  rw [map_fst_files]
  change ((if m.code.isEmpty then [] else [m.fileName]) ++ _ ++ _).Nodup
  cases m.code.isEmpty <;> cases m.assets.fonts.isEmpty <;> simp_all [List.nodup_append]

/-- An output is the module, an image or the style sheet, and its last letter tells which. -/
theorem file_cases (hmedia : m.assets.From source)
    {file : String × List UInt8} (h : file ∈ m.files) :
    (file = (m.fileName, Text.bytes m.code.toList) ∧ file.1.toList.getLast? = some 'x') ∨
    (∃ media ∈ m.assets.media, file = (media.filename, media.bytes) ∧
      ∃ c ∈ imageEnds, file.1.toList.getLast? = some c) ∨
    (file = ("fonts.css", Text.bytes m.assets.fontsCss.toList) ∧
      file.1.toList.getLast? = some 's') := by
  rw [files, List.mem_append, List.mem_append, List.mem_map] at h
  rcases h with (h | ⟨media, hmem, rfl⟩) | h
  · left
    split at h
    · cases h
    · rw [List.mem_singleton] at h
      exact ⟨h, h ▸ m.getLast?_fileName⟩
  · right; left
    obtain ⟨hash, hfile⟩ := hmedia media hmem
    exact ⟨media, hmem, rfl, exists_getLast?_filename hfile⟩
  · right; right
    split at h
    · cases h
    · rw [List.mem_singleton] at h
      have hend : "fonts.css".toList.getLast? = some 's' := by decide
      exact ⟨h, h ▸ hend⟩

/-- The name of an output ends neither with a slash nor with a point. -/
theorem exists_getLast?_of_mem_files (hmedia : m.assets.From source)
    {file : String × List UInt8} (h : file ∈ m.files) :
    ∃ c, file.1.toList.getLast? = some c ∧ c ≠ '/' ∧ c ≠ '.' := by
  rcases file_cases hmedia h with ⟨-, hend⟩ | ⟨-, -, -, c, hc, hend⟩ | ⟨-, hend⟩
  · exact ⟨'x', hend, by decide⟩
  · refine ⟨c, hend, ?_, ?_⟩ <;> rintro rfl <;> exact absurd hc (by decide)
  · exact ⟨'s', hend, by decide⟩

/-- Two outputs whose names end with the same letter are images, if they are different. -/
theorem eq_or_media_of_getLast?_eq (hmedia : m.assets.From source)
    {file other : String × List UInt8} (hfile : file ∈ m.files) (hother : other ∈ m.files)
    (h : file.1.toList.getLast? = other.1.toList.getLast?) :
    file = other ∨ ∃ a ∈ m.assets.media, ∃ b ∈ m.assets.media,
      file.1 = a.filename ∧ other.1 = b.filename := by
  have hends {c : Char} (hc : c ∈ imageEnds) : some c ≠ some 'x' ∧ some c ≠ some 's' := by
    refine ⟨?_, ?_⟩ <;> rintro ⟨⟩ <;> exact absurd hc (by decide)
  rcases file_cases hmedia hfile with ⟨hf, hx⟩ | ⟨a, ha, hf, c, hc, hx⟩ | ⟨hf, hx⟩ <;>
    rcases file_cases hmedia hother with ⟨ho, hy⟩ | ⟨b, hb, ho, d, hd, hy⟩ | ⟨ho, hy⟩ <;>
      rw [hx, hy] at h
  case inl.inl | inr.inr.inr.inr => exact .inl (hf.trans ho.symm)
  case inr.inl.inr.inl => exact .inr ⟨a, ha, b, hb, congrArg Prod.fst hf, congrArg Prod.fst ho⟩
  case inl.inr.inl => exact absurd h.symm (hends hd).1
  case inr.inr.inr.inl => exact absurd h.symm (hends hd).2
  case inr.inl.inl => exact absurd h (hends hc).1
  case inr.inl.inr.inr => exact absurd h (hends hc).2
  case inl.inr.inr | inr.inr.inl => exact absurd h (by decide)

end Compiled

/-! ### Writing into a folder -/

namespace Path

/-- The last part between slashes ends as the whole does, unless that is a slash. -/
theorem exists_splitOn_eq_append {path : List Char} {c : Char} (h : path.getLast? = some c)
    (hc : c ≠ '/') : ∃ parts last, path.splitOn '/' = parts ++ [last] ∧ last.getLast? = some c := by
  induction path with
  | nil => cases h
  | cons first rest ih =>
    rw [List.splitOn_cons_eq_if_modifyHead]
    cases rest with
    | nil =>
      obtain rfl : first = c := Option.some.inj h
      exact ⟨[], [first], by simp [hc], rfl⟩
    | cons second rest =>
      rw [List.getLast?_cons_cons] at h
      obtain ⟨parts, last, hsplit, hlast⟩ := ih h
      by_cases hfirst : first = '/'
      · exact ⟨[] :: parts, last, by simp [hfirst, hsplit], hlast⟩
      · rw [if_neg (by simpa using hfirst), hsplit]
        cases parts with
        | nil =>
          refine ⟨[], first :: last, rfl, ?_⟩
          rw [List.getLast?_cons, hlast]
          rfl
        | cons part parts => exact ⟨(first :: part) :: parts, last, rfl, hlast⟩

/-- The last part of a path ends as the path does, unless that is a slash. -/
theorem exists_parts_eq_append {path : String} {c : Char} (h : path.toList.getLast? = some c)
    (hc : c ≠ '/') :
    ∃ before last, parts path = before ++ [last] ∧ last.toList.getLast? = some c := by
  obtain ⟨before, last, hsplit, hlast⟩ := exists_splitOn_eq_append h hc
  refine ⟨before.map String.ofList, String.ofList last, ?_, ?_⟩
  · rw [parts, hsplit, List.map_append]
    rfl
  · rw [String.toList_ofList, hlast]

/-- A path that goes on with a name ends as the name does. -/
theorem getLast?_join {name : String} {c : Char} (h : name.toList.getLast? = some c)
    (path : String) : (join path name).toList.getLast? = some c := by
  unfold join
  split
  · exact h
  · split <;> rw [String.toList_append, List.getLast?_append, h] <;> rfl

/-- A name without a slash is the last part of a path that goes on with it. -/
theorem exists_parts_join {name : String} (h : '/' ∉ name.toList) (path : String) :
    ∃ before, parts (join path name) = before ++ [name] := by
  have hjoin : ∃ folder : String, join path name = folder ++ "/" ++ name := by
    have hstart : name.startsWith "/" = false := by
      rw [String.startsWith_string_eq_false_iff]
      rintro ⟨rest, hrest⟩
      exact h (hrest ▸ List.mem_cons_self)
    unfold join
    rw [if_neg (Bool.eq_false_iff.mp hstart)]
    split
    · rename_i hend
      rw [String.endsWith_eq_endsWith_toSlice, String.Slice.endsWith_string_iff,
        String.copy_toSlice] at hend
      obtain ⟨folder, hfolder⟩ := hend
      exact ⟨String.ofList folder, by rw [← String.toList_inj]; simp [← hfolder]⟩
    · exact ⟨path, rfl⟩
  obtain ⟨folder, hfolder⟩ := hjoin
  have hlist : (folder ++ "/" ++ name).toList = folder.toList ++ '/' :: name.toList := by simp
  refine ⟨parts folder, ?_⟩
  rw [hfolder, parts, hlist, List.splitOn_append_cons_self,
    List.splitOn_eq_singleton h, List.map_append]
  simp [parts]

end Path

namespace Folder

variable {f g : Folder}

/-- The parts of a path are walked one after the other. -/
theorem walk?_append (f : Folder) (place : Place) (first second : List String) :
    f.walk? place (first ++ second) = (f.walk? place first).bind (f.walk? · second) := by
  induction first generalizing place with
  | nil => rfl
  | cons part parts ih =>
    rw [List.cons_append, walk?, walk?]
    split
    · exact ih _
    · rfl

/-- A place is named for the last part of the path, unless that stands for a folder. -/
theorem getLast?_of_find? {path name : String} {before : List String} {place : Place} {c : Char}
    (h : f.find? path = some place) (hparts : Path.parts path = before ++ [name])
    (hend : name.toList.getLast? = some c) (hpoint : c ≠ '.') : place.getLast? = some name := by
  have hstep (folder : Place) : folder.step name = folder ++ [name] := by
    have hname : name ≠ "" ∧ name ≠ "." ∧ name ≠ ".." := by
      refine ⟨?_, ?_, ?_⟩ <;> rintro rfl <;> cases hend <;> exact hpoint rfl
    rw [Place.step, if_neg (not_or.mpr ⟨hname.1, hname.2.1⟩), if_neg hname.2.2]
  unfold find? at h
  split at h
  · cases h
  · rw [hparts, walk?_append, Option.bind_eq_some_iff] at h
    obtain ⟨folder, -, hlast⟩ := h
    unfold walk? at hlast
    split at hlast
    · cases hlast
      rw [hstep, List.getLast?_concat]
    · cases hlast

/-- The last letter of a name is the last letter of the place that it leads to. -/
theorem exists_getLast?_of_find?_join {path name : String} {place : Place} {c : Char}
    (h : f.find? (Path.join path name) = some place) (hend : name.toList.getLast? = some c)
    (hslash : c ≠ '/')
    (hpoint : c ≠ '.') : ∃ last, place.getLast? = some last ∧ last.toList.getLast? = some c := by
  obtain ⟨before, last, hparts, hlast⟩ :=
    Path.exists_parts_eq_append (Path.getLast?_join hend path) hslash
  exact ⟨last, getLast?_of_find? h hparts hlast hpoint, hlast⟩

/-- A name without a slash is the last name of the place that it leads to. -/
theorem getLast?_of_find?_join {path name : String} {place : Place} {c : Char}
    (h : f.find? (Path.join path name) = some place) (hend : name.toList.getLast? = some c)
    (hpoint : c ≠ '.') (hslash : '/' ∉ name.toList) : place.getLast? = some name := by
  obtain ⟨before, hparts⟩ := Path.exists_parts_join hslash path
  exact getLast?_of_find? h hparts hend hpoint

/-- An entry that is put at a place is found there, and the others stay. -/
theorem entry?_put (f : Folder) (place other : Place) (entry : Entry) (h : place.isFixed = false) :
    entry? (f.put place entry) other = if other = place then some entry else f.entry? other := by
  unfold entry? put
  by_cases heq : other = place
  · rw [if_pos heq, heq, h]
    simp
  · rw [if_neg heq]
    simp only [List.lookup_cons, beq_false_of_ne heq]

/-- A file is written where its path leads, and no folder is there. -/
theorem eq_put_of_write {path : String} {bytes : List UInt8} (h : f.write path bytes = (true, g)) :
    ∃ place, f.find? path = some place ∧ f.isFolder place = false ∧
      g = f.put place (.file bytes) := by
  unfold write at h
  split at h
  · cases h
  · rename_i place hplace
    split at h
    · cases h
    · rename_i hfree
      rw [Bool.or_eq_true, not_or, Bool.not_eq_true] at hfree
      exact ⟨place, hplace, hfree.1, (Prod.mk.inj h).2.symm⟩

/-- A place that is no folder is not one of those that always are. -/
theorem isFixed_eq_false_of_not_isFolder {place : Place} (h : f.isFolder place = false) :
    place.isFixed = false := by
  rw [← Bool.not_eq_true]
  intro hfixed
  simp [isFolder, entry?, hfixed] at h

/-- Where a path leads depends on the folders only. -/
theorem find?_congr (h : ∀ place, g.isFolder place = f.isFolder place) (path : String) :
    g.find? path = f.find? path := by
  have hwalk (place : Place) (parts : List String) : g.walk? place parts = f.walk? place parts := by
    induction parts generalizing place with
    | nil => rfl
    | cons part parts ih => rw [walk?, walk?, h, ih]
  rw [find?, find?, hwalk]

/-- Writing a file leaves every path leading where it led. -/
theorem find?_write {path : String} {bytes : List UInt8} (h : f.write path bytes = (true, g))
    (other : String) : g.find? other = f.find? other := by
  obtain ⟨place, -, hfree, rfl⟩ := eq_put_of_write h
  refine find?_congr (fun p => ?_) other
  rw [isFolder, entry?_put _ _ _ _ (isFixed_eq_false_of_not_isFolder hfree)]
  split
  · rename_i heq
    rw [heq, hfree]
    rfl
  · rfl

/-- Writing a file changes the place its path leads to, and no other. -/
theorem entry?_write {path : String} {bytes : List UInt8} (h : f.write path bytes = (true, g))
    (place : Place) :
    g.entry? place = if f.find? path = some place then some (.file bytes) else f.entry? place := by
  obtain ⟨written, hplace, hfree, rfl⟩ := eq_put_of_write h
  rw [entry?_put _ _ _ _ (isFixed_eq_false_of_not_isFolder hfree), hplace]
  simp only [Option.some.injEq, eq_comm]

end Folder

/-- Two outputs of a module whose names lead to one place are images, and a name has a slash in
it. -/
theorem Compiled.eq_or_slash_of_find?_eq {m : Compiled} {source : Source} {f : Folder}
    {path : String} {place : Place} {file other : String × List UInt8}
    (hmedia : m.assets.From source)
    (hnodup : (m.files.map Prod.fst).Nodup) (hfile : file ∈ m.files) (hother : other ∈ m.files)
    (h : f.find? (Path.join path file.1) = some place)
    (h' : f.find? (Path.join path other.1) = some place) :
    file = other ∨ ∃ a ∈ m.assets.media, ∃ b ∈ m.assets.media,
      file.1 = a.filename ∧ other.1 = b.filename ∧
      ('/' ∈ a.filename.toList ∨ '/' ∈ b.filename.toList) := by
  obtain ⟨c, hend, hslash, hpoint⟩ := exists_getLast?_of_mem_files hmedia hfile
  obtain ⟨d, hend', hslash', hpoint'⟩ := exists_getLast?_of_mem_files hmedia hother
  have hsame : file.1.toList.getLast? = other.1.toList.getLast? := by
    obtain ⟨last, hlast, hc⟩ := Folder.exists_getLast?_of_find?_join h hend hslash hpoint
    obtain ⟨last', hlast', hd⟩ := Folder.exists_getLast?_of_find?_join h' hend' hslash' hpoint'
    obtain rfl : last = last' := Option.some.inj (hlast.symm.trans hlast')
    rw [hend, hend', ← hc, hd]
  rcases eq_or_media_of_getLast?_eq hmedia hfile hother hsame with heq | ⟨a, ha, b, hb, hfa, hob⟩
  · exact .inl heq
  by_cases hfslash : '/' ∈ file.1.toList
  · exact .inr ⟨a, ha, b, hb, hfa, hob, .inl (hfa ▸ hfslash)⟩
  by_cases hoslash : '/' ∈ other.1.toList
  · exact .inr ⟨a, ha, b, hb, hfa, hob, .inr (hob ▸ hoslash)⟩
  have hname : file.1 = other.1 := Option.some.inj
    ((Folder.getLast?_of_find?_join h hend hpoint hfslash).symm.trans
      (Folder.getLast?_of_find?_join h' hend' hpoint' hoslash))
  exact .inl (List.inj_on_of_nodup_map hnodup hfile hother hname)

namespace Job

variable {path : String} {files : List (String × List UInt8)} {folder after : Folder}

/-- Making folders succeeds or fails as the folder says. -/
theorem outcome_makeFolders (path : String) (folder : Folder) :
    (makeFolders path).outcome folder =
      (if (folder.makeFolders path).1 then .ok () else .error (.makeFolder path),
        (folder.makeFolders path).2) := rfl

/-- A request to write a file. -/
def write (path : String) (bytes : List UInt8) : Job Unit :=
  ExceptT.mk (.write path bytes fun written =>
    .done (if written then .ok () else .error (.write path)))

/-- The files are written one after the other. -/
theorem writeFiles_cons (path name : String) (bytes : List UInt8)
    (files : List (String × List UInt8)) :
    writeFiles path ((name, bytes) :: files) =
      write (Path.join path name) bytes >>= fun _ => writeFiles path files :=
  rfl

/-- Writing a file succeeds or fails as the folder says. -/
theorem outcome_write {bytes : List UInt8} {written : Bool}
    (h : folder.write path bytes = (written, after)) :
    (write path bytes).outcome folder =
      (if written then .ok () else .error (.write path), after) := by
  change ((if (folder.write path bytes).1 then _ else _), (folder.write path bytes).2) = _
  rw [h]

/-- A file that is written is the one of the request. -/
theorem written_write {bytes : List UInt8} (h : folder.write path bytes = (true, after)) :
    (write path bytes).written folder = [(path, bytes)] := by
  change (if (folder.write path bytes).1 then [(path, bytes)] else []) ++ [] = _
  rw [h]
  rfl

/-- One file is written, and then the others. -/
theorem write_of_outcome_writeFiles_cons {name : String} {bytes : List UInt8}
    (h : (writeFiles path ((name, bytes) :: files)).outcome folder = (.ok (), after)) :
    ∃ between, folder.write (Path.join path name) bytes = (true, between) ∧
      (writeFiles path files).outcome between = (.ok (), after) ∧
      (writeFiles path ((name, bytes) :: files)).written folder =
        (Path.join path name, bytes) :: (writeFiles path files).written between := by
  rw [writeFiles_cons] at h ⊢
  rcases hwrite : folder.write (Path.join path name) bytes with ⟨_ | _, between⟩
  · rw [outcome_bind_of_error (outcome_write hwrite)] at h
    cases h
  · have hone : (write (Path.join path name) bytes).outcome folder = (.ok (), between) :=
      outcome_write hwrite
    rw [outcome_bind_of_ok hone] at h
    exact ⟨between, rfl, h, by rw [written_bind_of_ok hone, written_write hwrite]; rfl⟩

/-- Writing files leaves every path leading where it led. -/
theorem find?_of_outcome_writeFiles (h : (writeFiles path files).outcome folder = (.ok (), after))
    (other : String) : after.find? other = folder.find? other := by
  induction files generalizing folder with
  | nil => cases h; rfl
  | cons file rest ih =>
    obtain ⟨between, hwrite, hrest, -⟩ := write_of_outcome_writeFiles_cons h
    rw [ih hrest, Folder.find?_write hwrite]

/-- Where all files could be written, these are the ones that were. -/
theorem written_of_outcome_writeFiles
    (h : (writeFiles path files).outcome folder = (.ok (), after)) :
    (writeFiles path files).written folder =
      files.map fun file => (Path.join path file.1, file.2) := by
  induction files generalizing folder with
  | nil => rfl
  | cons file rest ih =>
    obtain ⟨between, -, hrest, hwritten⟩ := write_of_outcome_writeFiles_cons h
    rw [hwritten, ih hrest, List.map_cons]

/-- Writing files leaves the places alone that none of their names leads to. -/
theorem entry?_of_outcome_writeFiles_of_forall_ne
    (h : (writeFiles path files).outcome folder = (.ok (), after))
    {place : Place} (hother : ∀ file ∈ files, folder.find? (Path.join path file.1) ≠ some place) :
    after.entry? place = folder.entry? place := by
  induction files generalizing folder with
  | nil => cases h; rfl
  | cons file rest ih =>
    obtain ⟨between, hwrite, hrest, -⟩ := write_of_outcome_writeFiles_cons h
    have hbetween : ∀ later ∈ rest, between.find? (Path.join path later.1) ≠ some place := by
      intro later hmem
      rw [Folder.find?_write hwrite]
      exact hother later (List.mem_cons_of_mem _ hmem)
    rw [ih hrest hbetween, Folder.entry?_write hwrite, if_neg (hother file List.mem_cons_self)]

/-- What becomes of a file that is written among others: it stands where its name leads, unless the
name of a later one leads there too. -/
theorem entry?_of_outcome_writeFiles {before later : List (String × List UInt8)}
    {file : String × List UInt8}
    (h : (writeFiles path (before ++ file :: later)).outcome folder = (.ok (), after)) :
    ∃ place, after.find? (Path.join path file.1) = some place ∧
      ((∀ other ∈ later, after.find? (Path.join path other.1) ≠ some place) →
        after.entry? place = some (.file file.2)) := by
  induction before generalizing folder with
  | cons _ _ ih =>
    obtain ⟨between, -, hrest, -⟩ := write_of_outcome_writeFiles_cons h
    exact ih hrest
  | nil =>
    have hfind := find?_of_outcome_writeFiles h
    obtain ⟨between, hwrite, hrest, -⟩ := write_of_outcome_writeFiles_cons h
    obtain ⟨place, hplace, -, -⟩ := Folder.eq_put_of_write hwrite
    refine ⟨place, (hfind _).trans hplace, fun hlater => ?_⟩
    have hbetween : ∀ other ∈ later, between.find? (Path.join path other.1) ≠ some place := by
      intro other hmem
      rw [← find?_of_outcome_writeFiles hrest]
      exact hlater other hmem
    rw [entry?_of_outcome_writeFiles_of_forall_ne hrest hbetween, Folder.entry?_write hwrite,
      if_pos hplace]

/-- Writing files fails for no other reason. -/
theorem ofWriting_of_outcome_writeFiles {failure : Failure}
    (h : (writeFiles path files).outcome folder = (.error failure, after)) :
    failure.ofWriting = true := by
  induction files generalizing folder with
  | nil => cases congrArg Prod.fst h
  | cons file rest ih =>
    rw [writeFiles_cons] at h
    rcases hwrite : folder.write (Path.join path file.1) file.2 with ⟨_ | _, between⟩
    · rw [outcome_bind_of_error (outcome_write hwrite)] at h
      cases h
      rfl
    · rw [outcome_bind_of_ok (outcome_write hwrite)] at h
      exact ih h

end Job

/-! ### The outputs of a command -/

namespace Selection

open Job

/-- Write the files of a module and tell about them. -/
def output (path : String) (m : Compiled) : Job String :=
  writeFiles path m.files >>= fun _ => pure m.summary

/-- The warning about a module without markup. -/
def notice (m : Compiled) : Job Unit :=
  if m.code.isEmpty then
    Job.warn ["selection produced no markup, module not written, name: " ++ m.name]
  else pure ()

/-- Compiling, making folders and writing, one after the other; a warning may come between. -/
theorem compile_eq (s : Selection) (path : String) :
    s.compile path = s.compiled >>= fun m =>
      makeFolders path >>= fun _ => notice m >>= fun _ => output path m := by
  unfold compile
  congr 1
  funext m
  congr 1
  funext _
  unfold notice
  cases m.code.isEmpty <;> rfl

/-- The notice about a module never fails, and it leaves the folder as it is. -/
theorem outcome_notice (m : Compiled) (folder : Folder) :
    (notice m).outcome folder = (.ok (), folder) := by
  unfold notice
  cases m.code.isEmpty <;> rfl

/-- The notice about a module writes nothing. -/
theorem written_notice (m : Compiled) (folder : Folder) : (notice m).written folder = [] := by
  unfold notice
  cases m.code.isEmpty <;> rfl

/-- How compiling a selection can end: without a module and with nothing changed, with a failure to
write, or with all files written. -/
theorem compile_cases (s : Selection) (path : String) (folder : Folder) :
    (∃ failure, (s.compile path).outcome folder = (.error failure, folder) ∧
      (s.compile path).written folder = []) ∨
    (∃ failure after, failure.ofWriting = true ∧
      (s.compile path).outcome folder = (.error failure, after)) ∨
    ∃ m made after, s.compiled.outcome folder = (.ok m, folder) ∧
      (writeFiles path m.files).outcome made = (.ok (), after) ∧
      (s.compile path).outcome folder = (.ok m.summary, after) ∧
      (s.compile path).written folder = (writeFiles path m.files).written made := by
  obtain ⟨hfolder, hwritten⟩ := s.compiled_quiet folder
  rw [compile_eq]
  rcases hcompiled : s.compiled.outcome folder with ⟨failure | m, after⟩ <;>
    rw [hcompiled] at hfolder <;> subst hfolder
  · left
    exact ⟨failure, outcome_bind_of_error hcompiled _,
      (written_bind_of_error hcompiled _).trans hwritten⟩
  -- there is a module: now the folder, the notice and the files in turn
  rw [outcome_bind_of_ok hcompiled, written_bind_of_ok hcompiled, hwritten, List.nil_append]
  have hfolders := outcome_makeFolders path after
  rcases hmade : after.makeFolders path with ⟨_ | _, made⟩ <;> rw [hmade] at hfolders
  · right; left
    exact ⟨_, made, rfl, outcome_bind_of_error hfolders _⟩
  have hnone : (makeFolders path).written after = [] := rfl
  rw [outcome_bind_of_ok hfolders, written_bind_of_ok hfolders, hnone, List.nil_append,
    outcome_bind_of_ok (outcome_notice m made), written_bind_of_ok (outcome_notice m made),
    written_notice, List.nil_append, output]
  right
  rcases hwrite : (writeFiles path m.files).outcome made with ⟨failure | ⟨⟩, last⟩
  · left
    exact ⟨failure, last, ofWriting_of_outcome_writeFiles hwrite, outcome_bind_of_error hwrite _⟩
  · right
    refine ⟨m, made, last, rfl, hwrite, outcome_bind_of_ok hwrite _, ?_⟩
    rw [written_bind_of_ok hwrite]
    exact List.append_nil _

end Selection

namespace Command

/-- What is told about a job that gives a text. -/
def reportOf : Except Failure String → Report
  | .ok output => .done (output ++ "\n")
  | .error failure => .failed failure

/-- A command that compiles ends as its job does. -/
theorem run_of_read_compile {arguments : List String} {selection : Selection} {path : String}
    (h : Invocation.read arguments = some (.compile selection path)) (folder : Folder) :
    (run arguments).run folder =
        (reportOf ((selection.compile path).outcome folder).1,
          ((selection.compile path).outcome folder).2) ∧
      (run arguments).written folder = (selection.compile path).written folder := by
  unfold run
  rw [h]
  change ((selection.compile path).run >>= _).run folder = _ ∧
    ((selection.compile path).run >>= _).written folder =
      Workflow.written (selection.compile path).run folder
  rw [Workflow.run_bind, Workflow.written_bind]
  unfold Job.outcome
  cases ((selection.compile path).run.run folder).1 with
  | ok output => exact ⟨rfl, List.append_nil _⟩
  | error failure => exact ⟨rfl, List.append_nil _⟩

/-- The outputs of a command. When it succeeds, they are the module if it has markup, the images and
the style sheet of the fonts if there are any, under distinct names. An output stays as it was
written unless the name of a later one leads to the same place, which takes two images and a slash
in one of their names. When there is no module, nothing is made or written. -/
theorem outputs_of_compile {arguments : List String} {selection : Selection} {path : String}
    (h : Invocation.read arguments = some (.compile selection path)) (folder : Folder) :
    let report := ((run arguments).run folder).1
    let after := ((run arguments).run folder).2
    let written := (run arguments).written folder
    (∀ output, report = .done output → ∃ m : Compiled,
      (selection.compiled.outcome folder).1 = .ok m ∧
      m.files.map Prod.fst = (if m.code.isEmpty then [] else [m.name ++ ".tsx"]) ++
        m.assets.media.map Media.filename ++
        (if m.assets.fonts.isEmpty then [] else ["fonts.css"]) ∧
      written = m.files.map (fun file => (Path.join path file.1, file.2)) ∧
      (m.files.map Prod.fst).Nodup ∧
      (∀ before file later, m.files = before ++ file :: later →
        ∃ place, after.find? (Path.join path file.1) = some place ∧
          ((∀ other ∈ later, after.find? (Path.join path other.1) ≠ some place) →
            after.entry? place = some (.file file.2))) ∧
      ∀ file ∈ m.files, ∀ other ∈ m.files,
        after.find? (Path.join path file.1) = after.find? (Path.join path other.1) → file = other ∨
          ∃ a ∈ m.assets.media, ∃ b ∈ m.assets.media, file.1 = a.filename ∧ other.1 = b.filename ∧
            ('/' ∈ a.filename.toList ∨ '/' ∈ b.filename.toList)) ∧
    ∀ failure, report = .failed failure → failure.ofWriting = false →
      after = folder ∧ written = [] := by
  intro report after written
  obtain ⟨hrun, hwritten⟩ := run_of_read_compile h folder
  have hreport : report = reportOf ((selection.compile path).outcome folder).1 :=
    congrArg Prod.fst hrun
  have hafter : after = ((selection.compile path).outcome folder).2 := congrArg Prod.snd hrun
  change written = _ at hwritten
  rcases selection.compile_cases path folder with
      ⟨failure, houtcome, hnone⟩ | ⟨failure, last, hkind, houtcome⟩ |
      ⟨m, made, last, hcompiled, hfiles, houtcome, hfileswritten⟩ <;>
    rw [houtcome] at hreport hafter <;> rw [hreport]
  · refine ⟨fun output hdone => Report.noConfusion hdone, fun _ _ _ => ?_⟩
    exact ⟨hafter, hwritten.trans hnone⟩
  · refine ⟨fun output hdone => Report.noConfusion hdone, fun other hother hnot => ?_⟩
    cases hother
    rw [hkind] at hnot
    cases hnot
  · refine ⟨fun output _ => ?_, fun failure hfailed => Report.noConfusion hfailed⟩
    obtain ⟨compiler, scene, root, source, hcompile⟩ :=
      Selection.exists_compile_of_compiled hcompiled
    obtain ⟨hmedia, hnames⟩ := Compiler.media_of_compile_ok hcompile
    have hnodup := Compiled.nodup_names hmedia hnames
    refine ⟨m, congrArg Prod.fst hcompiled, m.map_fst_files,
      hwritten.trans (hfileswritten.trans (Job.written_of_outcome_writeFiles hfiles)),
      hnodup, ?_, ?_⟩
    · intro before file later hsplit
      rw [hsplit] at hfiles
      rw [hafter]
      exact Job.entry?_of_outcome_writeFiles hfiles
    · intro file hfile other hother hsame
      rw [hafter] at hsame
      -- a file that was written leads somewhere, so the two names do not fail together
      obtain ⟨before, later, hsplit⟩ := List.append_of_mem hfile
      obtain ⟨place, hplace, -⟩ := Job.entry?_of_outcome_writeFiles (hsplit ▸ hfiles)
      exact Compiled.eq_or_slash_of_find?_eq hmedia hnodup hfile hother hplace
        (hsame.symm.trans hplace)

/-- A folder with one snapshot: a frame that is painted with two images, one of them under the given
hash. -/
def painted (hash : String) : Folder :=
  ⟨[(["s"], .file (Text.bytes
    ("\x7b\"images\":\x7b\"a\":\"iVBORwE=\",\"" ++ hash ++ "\":\"iVBORwI=\"\x7d," ++
      "\"nodes\":[\x7b\"type\":\"FRAME\",\"fills\":[\x7b\"type\":\"IMAGE\",\"imageHash\":\"a\"\x7d,"
      ++ "\x7b\"type\":\"IMAGE\",\"imageHash\":\"" ++ hash ++ "\"\x7d]\x7d]\x7d").toList))]⟩

/-- Two images under plain hashes: the command writes three files under distinct names. -/
theorem outputs_of_compile_two_images :
    let arguments := ["compile", "--in", "s", "--out-dir", "o"]
    let written := (run arguments).written (painted "b")
    Invocation.read arguments = some (.compile { input := "s" } "o") ∧ written.length = 3 ∧
      ∃ m : Compiled,
        (Selection.compiled { input := "s" }).outcome (painted "b") = (.ok m, painted "b") ∧
        written = m.files.map (fun file => (Path.join "o" file.1, file.2)) ∧
        (m.files.map Prod.fst).Nodup := by
  intro arguments written
  have hread : Invocation.read arguments = some (.compile { input := "s" } "o") := by rfl
  obtain ⟨hexit, hlength⟩ :
      ((run arguments).run (painted "b")).1.exitCode = 0 ∧ written.length = 3 := by
    decide +kernel
  refine ⟨hread, hlength, ?_⟩
  cases hreport : ((run arguments).run (painted "b")).1 with
  | done output =>
    obtain ⟨m, hm, -, hwritten, hnodup, -⟩ :=
      (outputs_of_compile hread (painted "b")).1 output hreport
    exact ⟨m, Prod.ext hm ((Selection.compiled_quiet _ _).1), hwritten, hnodup⟩
  | failed failure =>
    rw [hreport] at hexit
    cases hexit
  | misused =>
    rw [hreport] at hexit
    cases hexit

/-- The hashes `a` and `./a`: both images are written, and the command succeeds, but the second
replaces the first. -/
theorem dotted_hash_overwrites :
    let command := run ["compile", "--in", "s", "--out-dir", "o"]
    let after := (command.run (painted "./a")).2
    (command.run (painted "./a")).1.exitCode = 0 ∧
      ("o/./a.png", [0x89, 0x50, 0x4E, 0x47, 2]) ∈ command.written (painted "./a") ∧
      (after.find? "o/./a.png").bind after.entry? = some (.file [0x89, 0x50, 0x4E, 0x47, 1]) := by
  decide +kernel

end Command

end Viewsmith
