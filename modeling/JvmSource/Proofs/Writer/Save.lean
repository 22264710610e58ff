import JvmSource.Proofs.Storage.FileTree
import JvmSource.Script.Render
import JvmSource.Writer.Call

/-!
# What saving changes

A file is saved as a whole or not at all, and no other file changes. A file that has been saved
holds its bytes, so saving it again changes nothing.
-/

namespace JvmSource

/-! ## Runs over a state -/

section Run

variable {σ ε α β : Type} {state next : σ} {value : α}

theorem run_bind_of_ok {act : ExceptT ε (StateM σ) α} (h : act.run.run state = (.ok value, next))
    (rest : α → ExceptT ε (StateM σ) β) :
    (act >>= rest).run.run state = (rest value).run.run next := by
  change (ExceptT.bindCont rest (act.run.run state).1).run (act.run.run state).2 = _
  rw [h]
  rfl

theorem run_bind_of_error {act : ExceptT ε (StateM σ) α} {fault : ε}
    (h : act.run.run state = (.error fault, next)) (rest : α → ExceptT ε (StateM σ) β) :
    (act >>= rest).run.run state = (.error fault, next) := by
  change (ExceptT.bindCont rest (act.run.run state).1).run (act.run.run state).2 = _
  rw [h]
  rfl

theorem run_lift_state {act : StateM σ α} (h : act.run state = (value, next)) :
    (liftM act : ExceptT ε (StateM σ) α).run.run state = (.ok value, next) := by
  change (Except.ok (act.run state).1, (act.run state).2) = _
  rw [h]

theorem run_lift_ok (value : α) (state : σ) :
    (liftM (Except.ok value : Except ε α) : ExceptT ε (StateM σ) α).run.run state =
      (.ok value, state) := rfl

end Run

namespace SourceFile

variable {storage : Storage (StateM FileTree)} {file : SourceFile} {tree after : FileTree}
  {fault : Fault} {bytes : List UInt8}

/-! ## The ways that saving can go -/

/-- Directories are made, or the one that was wanted is at fault. -/
theorem run_makeParent (keeps : storage.KeepsTree) (tree : FileTree) (parent : Text) :
    ∃ next, tree.AddsDirectories next ∧
      ((makeParent storage parent).run.run tree = (.ok (), next) ∨
        (makeParent storage parent).run.run tree = (.error (.storage parent), next)) := by
  unfold makeParent
  cases parent with
  | nil => exact ⟨tree, .refl tree, .inl rfl⟩
  | cons first rest =>
    have hadds := keeps.addsDirectories (first :: rest) tree
    rcases hmake : (storage.makeDirectories (first :: rest)).run tree with ⟨made, next⟩
    rw [hmake] at hadds
    refine ⟨next, hadds, ?_⟩
    simp only [List.isEmpty_cons, Bool.not_false, if_true, run_bind_of_ok (run_lift_state hmake)]
    cases made with
    | false => exact .inr rfl
    | true => exact .inl rfl

/-- A file with a character outside its charset is refused before anything is read or written. -/
theorem run_save_of_error (h : file.bytes = .error fault) :
    (file.save storage).run.run tree = (.error fault, tree) := by
  unfold save
  rw [h]
  rfl

/-- A file whose bytes are there already is left as it is. -/
theorem run_save_of_read (keeps : storage.KeepsTree) (hbytes : file.bytes = .ok bytes)
    (hread : tree.read? file.path = some bytes) :
    (file.save storage).run.run tree = (.ok .unchanged, tree) := by
  unfold save
  rw [hbytes, run_bind_of_ok (run_lift_ok _ _),
    run_bind_of_ok (run_lift_state (keeps.run_read _ _)), if_pos hread]
  rfl

/-- A file that does not hold its bytes is refused, by a fault of the directory or of the file, or
written where its path then leads. -/
theorem run_save_of_read_ne (keeps : storage.KeepsTree) (hbytes : file.bytes = .ok bytes)
    (hread : tree.read? file.path ≠ some bytes) :
    ∃ next, tree.AddsDirectories next ∧
      ((∃ place, (place = OutputPath.parent file.path ∨ place = file.path) ∧
        (file.save storage).run.run tree = (.error (.storage place), next)) ∨
      ∃ location, next.locate? file.path = some location ∧
        next.node? location ≠ some .directory ∧
        (file.save storage).run.run tree =
          (.ok (.written bytes.length), next.put location (.file bytes))) := by
  obtain ⟨next, hadds, hmake⟩ := run_makeParent keeps tree (OutputPath.parent file.path)
  -- what the making of directories leaves is what the writing starts from, in each of the cases
  refine ⟨next, hadds, ?_⟩
  unfold save
  rw [hbytes, run_bind_of_ok (run_lift_ok _ _),
    run_bind_of_ok (run_lift_state (keeps.run_read _ _)), if_neg hread]
  rcases hmake with hmade | hrefused
  · rw [run_bind_of_ok hmade]
    rcases keeps.run_overwrite file.path bytes next with
      hrefused | ⟨location, hlocate, hnode, hwritten⟩
    · left
      refine ⟨_, .inr rfl, ?_⟩
      rw [run_bind_of_ok (run_lift_state hrefused)]
      rfl
    · right
      refine ⟨location, hlocate, hnode, ?_⟩
      rw [run_bind_of_ok (run_lift_state hwritten)]
      rfl
  · left
    exact ⟨_, .inl rfl, run_bind_of_error hrefused _⟩

/-! ## What saving amounts to -/

/-- Whether a file has been written: it now has the given bytes at the location where its path
leads, it did not have them before, and no other file has changed. -/
structure Replaces (file : SourceFile) (tree after : FileTree) (bytes : List UInt8)
    (location : List Text) : Prop where
  /-- Before, the path led to no file or to another content. -/
  differed : tree.read? file.path ≠ some bytes
  /-- So did the location. This leaves out trees in which something lies in no directory, and paths
  that go upwards: `a/../b` leads nowhere until there is a directory `a`. -/
  differedThere : tree.Closed → FileTree.up ∉ OutputPath.components file.path →
    tree.content? location ≠ some bytes
  /-- The path leads where it led before, if it led anywhere. -/
  stays : ∀ previous, tree.locate? file.path = some previous → previous = location
  located : after.locate? file.path = some location
  written : after.content? location = some bytes
  others : ∀ other, other ≠ location → after.content? other = tree.content? other

/-- What the tree after saving a file has to do with the tree before, for each result. -/
def Accounts (file : SourceFile) (tree after : FileTree) : Except Fault SaveOutcome → Prop
  | .ok .unchanged =>
    ∃ bytes, file.bytes = .ok bytes ∧ tree.read? file.path = some bytes ∧ after = tree
  | .ok (.written count) =>
    ∃ bytes location, file.bytes = .ok bytes ∧ count = bytes.length ∧
      file.Replaces tree after bytes location
  | .error (.unmappable c charset) =>
    charset = file.charset ∧ charset.encode file.content.text = .error c ∧ after = tree
  | .error (.storage place) =>
    (place = OutputPath.parent file.path ∨ place = file.path) ∧
      ∀ location, after.content? location = tree.content? location
  | .error _ => False

/-- A file has no bytes exactly when its text has a character outside its charset, which the fault
names. -/
theorem bytes_eq_error_iff :
    file.bytes = .error fault ↔
      ∃ c, file.charset.encode file.content.text = .error c ∧
        fault = .unmappable c file.charset := by
  unfold bytes
  cases file.charset.encode file.content.text with
  | error c =>
    show Except.error (Fault.unmappable c file.charset) = .error fault ↔ _
    simp [eq_comm]
  | ok bytes =>
    show Except.ok bytes = .error fault ↔ _
    simp

/-- Writing the bytes where the path leads replaces the file. -/
theorem replaces_put {next : FileTree} {location : List Text}
    (hread : tree.read? file.path ≠ some bytes) (hadds : tree.AddsDirectories next)
    (hlocate : next.locate? file.path = some location)
    (hnode : next.node? location ≠ some .directory) :
    file.Replaces tree (next.put location (.file bytes)) bytes location := by
  have hstays : ∀ previous, tree.locate? file.path = some previous → previous = location :=
    fun previous hprevious => Option.some.inj ((hadds.locate?_eq hprevious).symm.trans hlocate)
  refine ⟨hread, ?_, hstays, ?_, FileTree.content?_put_file_self hnode, ?_⟩
  · intro hclosed hup hcontent
    cases hbefore : tree.locate? file.path with
    | none =>
      -- the path runs through a directory that has just been made, so nothing was below it
      have hnone := hclosed.node?_eq_none_of_locate? hup hbefore hlocate
      simp [FileTree.content?, hnone] at hcontent
    | some previous =>
      rw [hstays previous hbefore] at hbefore
      simp [FileTree.read?, hbefore, hcontent] at hread
  · rw [FileTree.locate?_put_file hnode, hlocate]
  · intro other hother
    rw [FileTree.content?_put_file_of_ne hother, hadds.content?_eq]

/-- Saving accounts for everything that it changes. -/
theorem accounts_save (keeps : storage.KeepsTree) (file : SourceFile) (tree : FileTree) :
    file.Accounts tree ((file.save storage).run.run tree).2
      ((file.save storage).run.run tree).1 := by
  cases hbytes : file.bytes with
  | error fault =>
    rw [run_save_of_error hbytes]
    obtain ⟨c, hencode, rfl⟩ := bytes_eq_error_iff.mp hbytes
    exact ⟨rfl, hencode, rfl⟩
  | ok bytes =>
    by_cases hread : tree.read? file.path = some bytes
    · rw [run_save_of_read keeps hbytes hread]
      exact ⟨bytes, hbytes, hread, rfl⟩
    · obtain ⟨next, hadds, ⟨place, hplace, hrun⟩ | ⟨location, hlocate, hnode, hrun⟩⟩ :=
        run_save_of_read_ne keeps hbytes hread
      · rw [hrun]
        exact ⟨hplace, hadds.content?_eq⟩
      · rw [hrun]
        exact ⟨bytes, location, hbytes, rfl, replaces_put hread hadds hlocate hnode⟩

/-- What could not be saved has changed no file. -/
theorem Accounts.content?_eq (h : file.Accounts tree after (.error fault))
    (location : List Text) : after.content? location = tree.content? location := by
  cases fault with
  | unmappable c charset =>
    obtain ⟨-, -, rfl⟩ := h
    rfl
  | storage place => exact h.2 location
  | _ => exact h.elim

/-- A file that has been saved is found at its path. -/
theorem Accounts.read?_eq {outcome : SaveOutcome} (h : file.Accounts tree after (.ok outcome)) :
    ∃ bytes, file.bytes = .ok bytes ∧ after.read? file.path = some bytes := by
  cases outcome with
  | unchanged =>
    obtain ⟨bytes, hbytes, hread, rfl⟩ := h
    exact ⟨bytes, hbytes, hread⟩
  | written count =>
    obtain ⟨bytes, location, hbytes, -, hreplaces⟩ := h
    refine ⟨bytes, hbytes, ?_⟩
    simp [FileTree.read?, hreplaces.located, hreplaces.written]

/-- A file that has been saved is unchanged when it is saved again. -/
theorem run_save_again (keeps : storage.KeepsTree) {outcome : SaveOutcome}
    (h : (file.save storage).run.run tree = (.ok outcome, after)) :
    (file.save storage).run.run after = (.ok .unchanged, after) := by
  have haccounts := accounts_save keeps file tree
  rw [h] at haccounts
  obtain ⟨bytes, hbytes, hread⟩ := haccounts.read?_eq
  exact run_save_of_read keeps hbytes hread

end SourceFile

/-! ## Rendering scripts -/

namespace Script

variable {storage : Storage (StateM FileTree)} {script : Script} {output : Text} {config : Config}
  {writer : Writer} {tree after : FileTree} {fault : Fault} {failure : Failure} {report : Report}
  {outcome : SaveOutcome}

/-- A script for which no writer can be created fails with the reason, and nothing is written. -/
theorem run_render_of_create_error (h : Writer.create output config .lexical = .error fault) :
    (script.render storage output config).run.run tree =
      (.error (fault.failure.during ("Failed to create writer for ".toList ++ Text.quote output)),
        tree) := by
  unfold render
  rw [h]
  rfl

/-- A script whose file cannot be saved fails with the reason that saving gave. -/
theorem run_render_of_save_error (hcreate : Writer.create output config .lexical = .ok writer)
    (hsave : ((script.perform writer).finish.save storage).run.run tree = (.error fault, after)) :
    (script.render storage output config).run.run tree =
      (.error (fault.failure.during ("Failed to write output: ".toList ++ Text.quote output)),
        after) := by
  simp only [render, hcreate, run_bind_of_ok (run_lift_state hsave)]
  rfl

/-- A script whose file is saved reports what was done. -/
theorem run_render_of_save (hcreate : Writer.create output config .lexical = .ok writer)
    (hsave : ((script.perform writer).finish.save storage).run.run tree = (.ok outcome, after)) :
    (script.render storage output config).run.run tree =
      (.ok {
        path := (script.perform writer).finish.path
        dialect := (script.perform writer).finish.dialect
        outcome := outcome
        imports := (script.perform writer).finish.content.imports.emitted
        serial := (script.perform writer).finish.content.serial }, after) := by
  simp only [render, hcreate, run_bind_of_ok (run_lift_state hsave)]
  rfl

/-- Rendering that fails changes no file. -/
theorem content?_of_run_render_error (keeps : storage.KeepsTree)
    (h : (script.render storage output config).run.run tree = (.error failure, after))
    (location : List Text) : after.content? location = tree.content? location := by
  cases hcreate : Writer.create output config .lexical with
  | error fault =>
    rw [run_render_of_create_error hcreate] at h
    rw [(Prod.mk.inj h).2]
  | ok writer =>
    have haccounts := SourceFile.accounts_save keeps (script.perform writer).finish tree
    rcases hsave : ((script.perform writer).finish.save storage).run.run tree with
      ⟨fault | outcome, next⟩
    · rw [hsave] at haccounts
      rw [run_render_of_save_error hcreate hsave] at h
      obtain rfl : next = after := (Prod.mk.inj h).2
      exact haccounts.content?_eq location
    · rw [run_render_of_save hcreate hsave] at h
      cases (Prod.mk.inj h).1

/-- Rendering a script again leaves everything as it is, and reports the same file. -/
theorem run_render_again (keeps : storage.KeepsTree)
    (h : (script.render storage output config).run.run tree = (.ok report, after)) :
    (script.render storage output config).run.run after =
      (.ok { report with outcome := .unchanged }, after) := by
  cases hcreate : Writer.create output config .lexical with
  | error fault =>
    rw [run_render_of_create_error hcreate] at h
    cases (Prod.mk.inj h).1
  | ok writer =>
    rcases hsave : ((script.perform writer).finish.save storage).run.run tree with
      ⟨fault | outcome, next⟩
    · rw [run_render_of_save_error hcreate hsave] at h
      cases (Prod.mk.inj h).1
    · rw [run_render_of_save hcreate hsave] at h
      obtain ⟨hreport, rfl⟩ := Prod.mk.inj h
      obtain rfl := Except.ok.inj hreport
      rw [run_render_of_save hcreate (SourceFile.run_save_again keeps hsave)]

end Script

namespace Writer

/-- Saving a source file changes that file as a whole or no file at all, and after a success saving
the same file again changes nothing. So does rendering a script, which changes nothing at all if no
writer can be made. -/
theorem save_all_or_nothing {storage : Storage (StateM FileTree)} (keeps : storage.KeepsTree) :
    (∀ (writer : Writer) (calls : List Call) (tree : FileTree),
      let file := (writer.run calls).2.finish
      let (result, after) := (file.save storage).run.run tree
      file.Accounts tree after result ∧
      ∀ outcome, result = .ok outcome →
        (file.save storage).run.run after = (.ok .unchanged, after)) ∧
    ∀ (script : Script) (output : Text) (config : Config) (tree : FileTree),
      let (result, after) := (script.render storage output config).run.run tree
      (∀ fault, create output config .lexical = .error fault →
        (∃ failure, result = .error failure) ∧ after = tree) ∧
      (∀ failure, result = .error failure →
        ∀ location, after.content? location = tree.content? location) ∧
      ∀ report, result = .ok report →
        (script.render storage output config).run.run after =
          (.ok { report with outcome := .unchanged }, after) := by
  refine ⟨?_, ?_⟩
  · intro writer calls tree file
    have haccounts := SourceFile.accounts_save keeps file tree
    rcases hrun : (file.save storage).run.run tree with ⟨result, after⟩
    rw [hrun] at haccounts
    refine ⟨haccounts, ?_⟩
    rintro outcome rfl
    exact SourceFile.run_save_again keeps hrun
  · intro script output config tree
    rcases hrun : (script.render storage output config).run.run tree with ⟨result, after⟩
    refine ⟨?_, ?_, ?_⟩
    · intro fault hcreate
      rw [Script.run_render_of_create_error hcreate] at hrun
      obtain ⟨rfl, rfl⟩ := Prod.mk.inj hrun
      exact ⟨⟨_, rfl⟩, rfl⟩
    · rintro failure rfl
      exact Script.content?_of_run_render_error keeps hrun
    · rintro report rfl
      exact Script.run_render_again keeps hrun

/-- A file is written below a directory that is made for it, and then found unchanged. A letter that
its encoding lacks, a file where the directory should be and a path without a dialect change
nothing. -/
theorem save_all_or_nothing_keys :
    let writer : Writer := {
      path := "com/Keys.java".toList
      dialect := .java
      scope := ⟨"Keys".toList, none⟩
      resolver := ⟨Dialect.java.policy, none⟩
      table := .empty
      order := .lexical
      layout := { indent := ['\t'], newline := ['\n'] }
      docComments := true
      charset := .ascii }
    let save (line : Text) (tree : FileTree) : Except Fault SaveOutcome × FileTree :=
      ((writer.run [.println line []]).2.finish.save FileTree.storage).run.run tree
    let keys : FileTree := ⟨[
      (["com".toList, "Keys.java".toList], .file (Text.utf8 "class Keys;\n".toList)),
      (["com".toList], .directory)]⟩
    let blocked : FileTree := ⟨[(["com".toList], .file [])]⟩
    FileTree.storage.KeepsTree ∧
      save "class Keys;".toList .empty = (.ok (.written 12), keys) ∧
      save "class Keys;".toList keys = (.ok .unchanged, keys) ∧
      save "// Größe".toList keys = (.error (.unmappable 'ö' .ascii), keys) ∧
      save "class Keys;".toList blocked = (.error (.storage "com".toList), blocked) ∧
      ((Script.render FileTree.storage [] "Keys.txt".toList {}).run.run keys).2 = keys := by
  intro writer save keys blocked
  have hlaw := save_all_or_nothing FileTree.keepsTree_storage
  have hwritten : save "class Keys;".toList .empty = (.ok (.written 12), keys) := by rfl
  have hunmappable : save "// Größe".toList keys = (.error (.unmappable 'ö' .ascii), keys) := by
    rfl
  have hblocked :
      save "class Keys;".toList blocked = (.error (.storage "com".toList), blocked) := by rfl
  have hkeys := hlaw.1 writer [.println "class Keys;".toList []] .empty
  change match save "class Keys;".toList .empty with | (_, _) => _ at hkeys
  rw [hwritten] at hkeys
  have hagain : save "class Keys;".toList keys = (.ok .unchanged, keys) := hkeys.2 _ rfl
  have hcreate : create "Keys.txt".toList {} .lexical =
      .error (.path (.unknownExtension "txt".toList)) := by rfl
  -- no dialect has this extension
  have hrender := ((hlaw.2 [] "Keys.txt".toList {} keys).1 _ hcreate).2
  exact ⟨FileTree.keepsTree_storage, hwritten, hagain, hunmappable, hblocked, hrender⟩

end Writer

end JvmSource
