/-
  Read/World.lean --- `read_dmi` as a program that calls the operating system.

  `FileSystem` has one answer for each call and path, fixed before the run.  Here
  the calls are made one after another, each is answered when it is made, and the
  files may come, go and change in between.  More can fail than `FileSystem` has
  answers for: `Path.exists` raises where the path cannot be looked at, and the
  `close` at the end of a `with` block may raise too.

  Two results carry over to such a world.  Every run ends as `readDmi` does on a
  file system that gives the answers of the run, unless an existence check raised
  (`World.readDmi_runs`).  And the calls of every run keep an order: files are
  opened after both checks, one at a time, and closed again (`World.readDmi_calls`).
-/
import TruenasPydmi.Foundation.Interaction
import TruenasPydmi.Read.Outcome

set_option autoImplicit false

namespace TruenasPydmi.World

open TruenasPydmi.Foundation TruenasPydmi.Python

/-! ## The calls -/

/-- The calls `read_dmi` makes. -/
inductive Call where
  /-- `Path(path).exists()` -/
  | pathExists (path : String)
  /-- `open(path, "rb")` -/
  | openRb (path : String)
  /-- `f.read()` on the file opened -/
  | read (path : String)
  /-- the `close` at the end of the `with` block -/
  | close (path : String)
  deriving DecidableEq

/-- What a call returns where it does not raise. -/
abbrev Call.Value : Call → Type
  | .pathExists _ => Bool
  | .openRb _ => Unit
  | .read _ => Bytes
  | .close _ => Unit

/-- The answer to a call. -/
abbrev Call.Answer (c : Call) : Type := Except OSError c.Value

abbrev History : Type := List (Answered Call Call.Answer)

/-- A program that calls the operating system. -/
abbrev System (ε α : Type) : Type := Program Call Call.Answer ε α

/-- One call: what it returns, or what it raises. -/
def perform (c : Call) : System OSError c.Value := .call c .ofExcept

/-! ## The program -/

section

variable (root path : String)

/-- `Path(path).exists()`. -/
def pathExists : System OSError Bool := perform (.pathExists path)

/-- `with open(path, "rb") as f: f.read()`. -/
def slurp : System OSError Bytes := do
  let read : System OSError Bytes := perform (.read path)
  let close : System OSError Unit := perform (.close path)
  let () ← (perform (.openRb path) : System OSError Unit)
  read.finally_ close

/-- `_entry_point_path()`. -/
def entryPointPath : String := root ++ entryPointRelPath

/-- `_tables_path()`. -/
def tablesPath : String := root ++ tablesRelPath

/-- `is_available`. -/
def isAvailable : System OSError Bool := do
  if ← pathExists (entryPointPath root) then pathExists (tablesPath root) else return false

/-- One of the two `try` blocks of `parse_dmi`. -/
def readOrPermissionError : System Raised Bytes :=
  (slurp path).mapError fun e =>
    if e.cls = .permissionError then .dmi (.permission path e) else .builtin (.osError e)

/-- `parse_dmi`. -/
def parseDmi : System Raised ParsedSMBIOS := do
  if ¬ (← (isAvailable root).mapError fun e => .builtin (.osError e)) then
    .raise (.dmi (.unavailable [entryPointPath root, tablesPath root]))
  else do
    let epBytes ← readOrPermissionError (entryPointPath root)
    let tableBytes ← readOrPermissionError (tablesPath root)
    .ofExcept (parseTables epBytes tableBytes)

/-- `read_dmi`. -/
def readDmi : System Raised DMIInfo := do
  let parsed ← parseDmi root
  .ofExcept (aggregate parsed)

end

/-! ## A world that stands still -/

/-- A path that cannot be looked at is not found. -/
def found : Except OSError Bool → Bool
  | .ok b => b
  | .error _ => false

/-- What the `with` block makes of the answers of `read` and `close`. -/
def closed (content : Except OSError Bytes) : Except OSError Unit → Except OSError Bytes
  | .ok () => content
  | .error e => .error e

/-- The file system that has the answers of an oracle.  A file that cannot be closed
counts as one that cannot be read. -/
def fileSystem (root : String) (ω : (c : Call) → c.Answer) : FileSystem where
  sysfsRoot := root
  pathExists path := found (ω (.pathExists path))
  openRb path := ω (.openRb path)
  read path := closed (ω (.read path)) (ω (.close path))

section

variable (root : String) (ω : (c : Call) → c.Answer)

@[simp] theorem eval_perform (c : Call) : (perform c).eval ω = ω c := by
  unfold perform
  rw [Program.eval_call]
  cases ω c <;> rfl

@[simp] theorem eval_pathExists (path : String) :
    (pathExists path).eval ω = ω (.pathExists path) := eval_perform ω _

theorem eval_slurp (path : String) :
    (slurp path).eval ω = (fileSystem root ω).slurp path := by
  unfold slurp FileSystem.slurp
  rw [Program.eval_bind, eval_perform]
  refine congrArg (ω (.openRb path) >>= ·) (funext fun _ => ?_)
  rw [Program.eval_finally, eval_perform, eval_perform]
  show _ = closed (ω (.read path)) (ω (.close path))
  cases ω (.close path) <;> rfl

theorem eval_readOrPermissionError (path : String) :
    (readOrPermissionError path).eval ω =
      TruenasPydmi.readOrPermissionError (fileSystem root ω) path := by
  unfold readOrPermissionError TruenasPydmi.readOrPermissionError
  rw [Program.eval_mapError, eval_slurp root]
  cases (fileSystem root ω).slurp path with
  | ok b => rfl
  | error e => exact apply_ite Except.error _ _ _

theorem eval_isAvailable {available : Bool} (h : (isAvailable root).eval ω = .ok available) :
    TruenasPydmi.isAvailable (fileSystem root ω) = available := by
  unfold isAvailable at h
  rw [Program.eval_bind, eval_pathExists] at h
  show (found (ω (.pathExists (entryPointPath root))) &&
    found (ω (.pathExists (tablesPath root)))) = available
  cases hep : ω (.pathExists (entryPointPath root)) with
  | error e => simp [hep] at h
  | ok b =>
      rw [hep, ok_bind] at h
      cases b with
      | false => exact Except.ok.inj h
      | true =>
          rw [if_pos rfl, eval_pathExists] at h
          rw [h]
          rfl

theorem eval_parseDmi {available : Bool} (h : (isAvailable root).eval ω = .ok available) :
    (parseDmi root).eval ω = TruenasPydmi.parseDmi (fileSystem root ω) := by
  have havailable := eval_isAvailable root ω h
  unfold parseDmi TruenasPydmi.parseDmi
  rw [Program.eval_bind, Program.eval_mapError, h, havailable]
  cases available with
  | false => rfl
  | true =>
      rw [if_neg (by simp)]
      refine (congrArg (Program.eval ω) (if_neg (by simp))).trans ?_
      simp only [Program.eval_bind, eval_readOrPermissionError root, Program.eval_ofExcept]
      rfl

/-- Without changes, and with checks that do not raise, the program is `readDmi`. -/
theorem eval_readDmi {available : Bool} (h : (isAvailable root).eval ω = .ok available) :
    (readDmi root).eval ω = TruenasPydmi.readDmi (fileSystem root ω) := by
  unfold readDmi TruenasPydmi.readDmi
  simp only [Program.eval_bind, eval_parseDmi root ω h, Program.eval_ofExcept]

end

/-! ## The order of the calls -/

/-- The file has been opened and not been closed. -/
def IsOpen (u : History) (path : String) : Prop :=
  ⟨.openRb path, .ok ()⟩ ∈ u ∧ ∀ x, ⟨.close path, x⟩ ∉ u

/-- The file was read, and closed after that. -/
def Got (u : History) (path : String) (b : Bytes) : Prop :=
  ⟨.read path, .ok b⟩ ∈ u ∧ ⟨.close path, .ok ()⟩ ∈ u

/-- The `with` block over the file raised. -/
def Failed (u : History) (path : String) (e : OSError) : Prop :=
  ⟨.openRb path, .error e⟩ ∈ u ∨
    ⟨.read path, .error e⟩ ∈ u ∧ ⟨.close path, .ok ()⟩ ∈ u ∨
    ⟨.close path, .error e⟩ ∈ u

/-- What must have been answered before a call.  No call is made twice. -/
def Allowed (root : String) (u : History) (c : Call) : Prop :=
  c ∉ u.map Sigma.fst ∧
    match c with
    | .pathExists path => path = entryPointPath root ∨
        path = tablesPath root ∧ ⟨.pathExists (entryPointPath root), .ok true⟩ ∈ u
    | .openRb path => (∀ q, ¬ IsOpen u q) ∧
        ⟨.pathExists (entryPointPath root), .ok true⟩ ∈ u ∧
        ⟨.pathExists (tablesPath root), .ok true⟩ ∈ u ∧
        (path = entryPointPath root ∨
          path = tablesPath root ∧ ∃ b, Got u (entryPointPath root) b)
    | .read path => IsOpen u path
    | .close path => IsOpen u path ∧ ∃ x, ⟨.read path, x⟩ ∈ u

/-- How a run ends, by what was answered in it. -/
inductive Ends (root : String) (t : History) : Except Raised DMIInfo → Prop
  | unlooked {path : String} {e : OSError} (h : ⟨.pathExists path, .error e⟩ ∈ t) :
      Ends root t (.error (.builtin (.osError e)))
  | missing {path : String} (h : ⟨.pathExists path, .ok false⟩ ∈ t) :
      Ends root t (.error (.dmi (.unavailable [entryPointPath root, tablesPath root])))
  | denied {path : String} {e : OSError} (h : Failed t path e) (hcls : e.cls = .permissionError) :
      Ends root t (.error (.dmi (.permission path e)))
  | failed {path : String} {e : OSError} (h : Failed t path e) (hcls : e.cls ≠ .permissionError) :
      Ends root t (.error (.builtin (.osError e)))
  | decoded {epBytes tableBytes : Bytes} (hep : Got t (entryPointPath root) epBytes)
      (htables : Got t (tablesPath root) tableBytes) :
      Ends root t (readTables epBytes tableBytes)

section

variable {G : History → Call → Prop} {u : History} {path : String}

/-- The calls of one `with` block. -/
theorem slurp_guarded (hopen : G u (.openRb path))
    (hread : G (u ++ [⟨.openRb path, .ok ()⟩]) (.read path))
    (hclose : ∀ x, G (u ++ [⟨.openRb path, .ok ()⟩, ⟨.read path, x⟩]) (.close path)) :
    Guarded G (fun v r =>
      (∃ e, r = .error e ∧ v = u ++ [⟨.openRb path, .error e⟩]) ∨
      ∃ x y, r = closed x y ∧
        v = u ++ [⟨.openRb path, .ok ()⟩, ⟨.read path, x⟩, ⟨.close path, y⟩]) u (slurp path) := by
  refine ⟨hopen, fun opened => ?_⟩
  cases opened with
  | error e => exact Or.inl ⟨e, rfl, rfl⟩
  | ok _ =>
      refine ⟨hread, fun x => ?_⟩
      have hclose' := hclose x
      rw [List.append_cons] at hclose'
      cases x with
      | error e =>
          refine ⟨hclose', fun y => ?_⟩
          cases y with
          | error e' => exact Or.inr ⟨.error e, .error e', rfl, by simp⟩
          | ok _ => exact Or.inr ⟨.error e, .ok (), rfl, by simp⟩
      | ok b =>
          refine ⟨hclose', fun y => ?_⟩
          cases y with
          | error e' => exact Or.inr ⟨.ok b, .error e', rfl, by simp⟩
          | ok _ => exact Or.inr ⟨.ok b, .ok (), rfl, by simp⟩

/-- A file that may be opened may be read and closed after it. -/
theorem slurp_allowed {root : String} (hopen : Allowed root u (.openRb path))
    (hread : .read path ∉ u.map Sigma.fst) (hclose : .close path ∉ u.map Sigma.fst) :
    Guarded (Allowed root) (fun v r =>
      (∃ e, r = .error e ∧ v = u ++ [⟨.openRb path, .error e⟩]) ∨
      ∃ x y, r = closed x y ∧
        v = u ++ [⟨.openRb path, .ok ()⟩, ⟨.read path, x⟩, ⟨.close path, y⟩]) u (slurp path) := by
  have hnever : ∀ x, ⟨.close path, x⟩ ∉ u := fun x hx => hclose (List.mem_map_of_mem hx)
  refine slurp_guarded hopen ⟨?_, ?_⟩ fun x => ⟨?_, ?_, x, ?_⟩
  · simpa using hread
  · exact ⟨by simp, by simpa using hnever⟩
  · simpa using hclose
  · exact ⟨by simp, by simpa using hnever⟩
  · simp

theorem not_isOpen_of_error {e : OSError} (h : ∀ q, ¬ IsOpen u q) (q : String) :
    ¬ IsOpen (u ++ [⟨.openRb path, .error e⟩]) q := by
  rintro ⟨hopen, hclose⟩
  refine h q ⟨?_, fun x hx => hclose x (List.mem_append_left _ hx)⟩
  rcases List.mem_append.mp hopen with hmem | hmem
  · exact hmem
  · simp at hmem

theorem not_isOpen_of_close {x : Except OSError Bytes} {y : Except OSError Unit}
    (h : ∀ q, ¬ IsOpen u q) (q : String) :
    ¬ IsOpen (u ++ [⟨.openRb path, .ok ()⟩, ⟨.read path, x⟩, ⟨.close path, y⟩]) q := by
  rintro ⟨hopen, hclose⟩
  have hne : q ≠ path := by
    rintro rfl
    exact hclose y (by simp)
  refine h q ⟨?_, fun x hx => hclose x (List.mem_append_left _ hx)⟩
  rcases List.mem_append.mp hopen with hmem | hmem
  · exact hmem
  · simp [hne] at hmem

/-- What the `try` block over one file leaves behind. -/
theorem readOrPermissionError_guarded {root : String} (hopen : Allowed root u (.openRb path))
    (hread : .read path ∉ u.map Sigma.fst) (hclose : .close path ∉ u.map Sigma.fst) :
    Guarded (Allowed root) (fun v r =>
      (∃ b, r = .ok b ∧
        v = u ++ [⟨.openRb path, .ok ()⟩, ⟨.read path, .ok b⟩, ⟨.close path, .ok ()⟩]) ∨
      ∃ e, Failed v path e ∧ (∀ q, ¬ IsOpen v q) ∧
        r = .error (if e.cls = .permissionError then .dmi (.permission path e)
          else .builtin (.osError e))) u (readOrPermissionError path) := by
  refine Guarded.mapError ((slurp_allowed hopen hread hclose).imp fun v r hr => ?_)
  rcases hr with ⟨e, rfl, rfl⟩ | ⟨x, y, rfl, rfl⟩
  · exact Or.inr ⟨e, Or.inl (by simp), not_isOpen_of_error hopen.2.1, rfl⟩
  · have hnone : ∀ q, ¬ IsOpen (u ++ [⟨.openRb path, .ok ()⟩, ⟨.read path, x⟩,
        ⟨.close path, y⟩]) q := not_isOpen_of_close hopen.2.1
    cases y with
    | error e => exact Or.inr ⟨e, Or.inr (Or.inr (by simp)), hnone, rfl⟩
    | ok _ =>
        cases x with
        | error e => exact Or.inr ⟨e, Or.inr (Or.inl (by simp)), hnone, rfl⟩
        | ok b => exact Or.inl ⟨b, rfl, rfl⟩

end

theorem entryPointPath_ne_tablesPath (root : String) : entryPointPath root ≠ tablesPath root := by
  intro h
  have hlength := congrArg String.length h
  simp only [entryPointPath, tablesPath, String.length_append, Nat.add_left_cancel_iff] at hlength
  exact absurd hlength (by decide)

/-- The existence checks. -/
theorem isAvailable_guarded (root : String) :
    Guarded (Allowed root) (fun v r =>
      (r = .ok true ∧ v = [⟨.pathExists (entryPointPath root), .ok true⟩,
        ⟨.pathExists (tablesPath root), .ok true⟩]) ∨
      (∀ q, ¬ IsOpen v q) ∧
        ((∃ path, r = .ok false ∧ ⟨.pathExists path, .ok false⟩ ∈ v) ∨
        ∃ path e, r = .error e ∧ ⟨.pathExists path, .error e⟩ ∈ v)) [] (isAvailable root) := by
  have hne := entryPointPath_ne_tablesPath root
  refine ⟨⟨by simp, Or.inl rfl⟩, fun ep => ?_⟩
  cases ep with
  | error e => exact Or.inr ⟨by simp [IsOpen], Or.inr ⟨entryPointPath root, e, rfl, by simp⟩⟩
  | ok b =>
      cases b with
      | false => exact Or.inr ⟨by simp [IsOpen], Or.inl ⟨entryPointPath root, rfl, by simp⟩⟩
      | true =>
          refine ⟨⟨by simp [hne.symm], Or.inr ⟨rfl, by simp⟩⟩, fun tables => ?_⟩
          cases tables with
          | error e =>
              exact Or.inr ⟨by simp [IsOpen], Or.inr ⟨tablesPath root, e, rfl, by simp⟩⟩
          | ok b =>
              cases b with
              | false =>
                  exact Or.inr ⟨by simp [IsOpen], Or.inl ⟨tablesPath root, rfl, by simp⟩⟩
              | true => exact Or.inl ⟨rfl, rfl⟩

theorem Ends.of_failed {root path : String} {t : History} {e : OSError} (h : Failed t path e) :
    Ends root t (.error (if e.cls = .permissionError then .dmi (.permission path e)
      else .builtin (.osError e))) := by
  split
  · exact .denied h ‹_›
  · exact .failed h ‹_›

/-- The calls of `parse_dmi`, and how it ends. -/
theorem parseDmi_guarded (root : String) :
    Guarded (Allowed root) (fun t r => (∀ path, ¬ IsOpen t path) ∧
      ((∃ epBytes tableBytes, Got t (entryPointPath root) epBytes ∧
          Got t (tablesPath root) tableBytes ∧ r = parseTables epBytes tableBytes) ∨
        ∃ e, r = .error e ∧ Ends root t (.error e))) [] (parseDmi root) := by
  have hne := entryPointPath_ne_tablesPath root
  unfold parseDmi
  refine Guarded.bind (Guarded.mapError ((isAvailable_guarded root).imp ?_))
  rintro v r (⟨rfl, rfl⟩ | ⟨hnone, ⟨path, rfl, hmissing⟩ | ⟨path, e, rfl, hraised⟩⟩)
  · show Guarded _ _ _ (readOrPermissionError _ >>= _)
    refine Guarded.bind ((readOrPermissionError_guarded ?_ (by simp) (by simp)).imp ?_)
    · exact ⟨by simp, by simp [IsOpen], by simp, by simp, Or.inl rfl⟩
    rintro v r (⟨epBytes, rfl, rfl⟩ | ⟨e, hfailed, hnone, rfl⟩)
    · refine Guarded.bind ((readOrPermissionError_guarded ?_ (by simp [hne.symm])
        (by simp [hne.symm])).imp ?_)
      · exact ⟨by simp [hne.symm], not_isOpen_of_close (by simp [IsOpen]), by simp, by simp,
          Or.inr ⟨rfl, epBytes, by simp [Got]⟩⟩
      rintro v r (⟨tableBytes, rfl, rfl⟩ | ⟨e, hfailed, hnone, rfl⟩)
      · refine Guarded.ofExcept ⟨not_isOpen_of_close (not_isOpen_of_close (by simp [IsOpen])), ?_⟩
        exact Or.inl ⟨epBytes, tableBytes, by simp [Got], by simp [Got], rfl⟩
      · exact ⟨hnone, Or.inr ⟨_, rfl, .of_failed hfailed⟩⟩
    · exact ⟨hnone, Or.inr ⟨_, rfl, .of_failed hfailed⟩⟩
  · exact ⟨hnone, Or.inr ⟨_, rfl, .missing hmissing⟩⟩
  · exact ⟨hnone, Or.inr ⟨_, rfl, .unlooked hraised⟩⟩

/-- The calls of `read_dmi`, and how it ends. -/
theorem readDmi_guarded (root : String) :
    Guarded (Allowed root) (fun t r => (∀ path, ¬ IsOpen t path) ∧ Ends root t r) []
      (readDmi root) := by
  unfold readDmi
  refine Guarded.bind ((parseDmi_guarded root).imp ?_)
  rintro t r ⟨hnone, ⟨epBytes, tableBytes, hep, htables, rfl⟩ | ⟨e, rfl, hends⟩⟩
  · have hends := Ends.decoded hep htables
    rw [readTables] at hends
    cases hparsed : parseTables epBytes tableBytes with
    | ok parsed =>
        rw [hparsed, ok_bind] at hends
        exact Guarded.ofExcept ⟨hnone, hends⟩
    | error e =>
        rw [hparsed, error_bind] at hends
        exact ⟨hnone, hends⟩
  · exact ⟨hnone, hends⟩

/-- Every call of every run is one that the answers before it allow, no file is left
open, and the run ends as its answers say. -/
theorem readDmi_calls (root : String) (t : History) (r : Except Raised DMIInfo)
    (h : Runs (readDmi root) t r) :
    (∀ u c x v, t = u ++ ⟨c, x⟩ :: v → Allowed root u c) ∧
      (∀ path, ¬ IsOpen t path) ∧ Ends root t r :=
  (readDmi_guarded root).run h

/-- The entry point is opened, its `read` raises, and it is closed. -/
theorem readDmi_calls_unreadable :
    (∀ path, ¬ IsOpen [⟨.pathExists (entryPointPath ""), .ok true⟩,
      ⟨.pathExists (tablesPath ""), .ok true⟩, ⟨.openRb (entryPointPath ""), .ok ()⟩,
      ⟨.read (entryPointPath ""), .error ⟨.osError, "[Errno 5] Input/output error"⟩⟩,
      ⟨.close (entryPointPath ""), .ok ()⟩] path) ∧
    Ends "" [⟨.pathExists (entryPointPath ""), .ok true⟩,
      ⟨.pathExists (tablesPath ""), .ok true⟩, ⟨.openRb (entryPointPath ""), .ok ()⟩,
      ⟨.read (entryPointPath ""), .error ⟨.osError, "[Errno 5] Input/output error"⟩⟩,
      ⟨.close (entryPointPath ""), .ok ()⟩]
      (.error (.builtin (.osError ⟨.osError, "[Errno 5] Input/output error"⟩))) := by
  have hcalls := fun r => readDmi_calls "" [⟨.pathExists (entryPointPath ""), .ok true⟩,
    ⟨.pathExists (tablesPath ""), .ok true⟩, ⟨.openRb (entryPointPath ""), .ok ()⟩,
    ⟨.read (entryPointPath ""), .error ⟨.osError, "[Errno 5] Input/output error"⟩⟩,
    ⟨.close (entryPointPath ""), .ok ()⟩] r
  exact (hcalls _ (.call _ (.call _ (.call _ (.call _ (.call _ (.raise _))))))).2

/-- The answers a file system shares with a run.  The `read` of a file is judged with
its `close`. -/
structure Saw (fs : FileSystem) (t : History) : Prop where
  pathExists : ∀ path b, ⟨.pathExists path, .ok b⟩ ∈ t → fs.pathExists path = b
  openRb : ∀ path x, ⟨.openRb path, x⟩ ∈ t → fs.openRb path = x
  read : ∀ path x y, ⟨.read path, x⟩ ∈ t → ⟨.close path, y⟩ ∈ t → fs.read path = closed x y

theorem saw_fileSystem (root : String) {ω : (c : Call) → c.Answer} {t : History}
    (hω : AgreesWith ω t) : Saw (fileSystem root ω) t where
  pathExists _ _ h := congrArg found (hω _ h)
  openRb _ _ h := hω _ h
  read _ _ _ hread hclose := congrArg₂ closed (hω _ hread) (hω _ hclose)

/-- The oracle that answers as a file system does, and closes every file. -/
def oracle (fs : FileSystem) : (c : Call) → c.Answer
  | .pathExists path => .ok (fs.pathExists path)
  | .openRb path => fs.openRb path
  | .read path => fs.read path
  | .close _ => .ok ()

theorem fileSystem_oracle (fs : FileSystem) : fileSystem fs.sysfsRoot (oracle fs) = fs := rfl

theorem exists_eval_isAvailable (root : String) (fs : FileSystem) :
    ∃ available, (isAvailable root).eval (oracle fs) = .ok available := by
  unfold isAvailable
  rw [Program.eval_bind, eval_pathExists, oracle, ok_bind]
  split
  · exact ⟨_, eval_pathExists _ _⟩
  · exact ⟨false, rfl⟩

/-- A run begins with the existence checks. -/
theorem exists_runs_isAvailable {root : String} {t : History} {r : Except Raised DMIInfo}
    (h : Runs (readDmi root) t r) : ∃ t₁ t₂ available, t = t₁ ++ t₂ ∧
      Runs (isAvailable root) t₁ available ∧
      ∀ e, available = .error e → r = .error (.builtin (.osError e)) := by
  obtain ⟨t₀, t₂, r₀, rfl, hparse, hthen⟩ := h.exists_of_andThen
  obtain ⟨t₁, t₂', r₁, rfl, hchecks, hthen'⟩ := hparse.exists_of_andThen
  obtain ⟨t₁, t₂'', available, rfl, havailable, hthen''⟩ := hchecks.exists_of_andThen
  refine ⟨t₁, _, available, by rw [List.append_assoc, List.append_assoc], havailable, ?_⟩
  rintro e rfl
  cases hthen''
  cases hthen'
  cases hthen
  rfl

/-- However the world changes under a run, the run ends as `readDmi` does on a file
system that does not change and has given the same answers; unless a check raised,
and then that error escapes.  Each file system is one of these worlds. -/
theorem readDmi_runs (root : String) :
    (∀ t r, Runs (readDmi root) t r →
      (∃ path e, ⟨.pathExists path, .error e⟩ ∈ t ∧ r = .error (.builtin (.osError e))) ∨
      ∃ fs : FileSystem, fs.sysfsRoot = root ∧ Saw fs t ∧ TruenasPydmi.readDmi fs = r) ∧
    ∀ fs : FileSystem, fs.sysfsRoot = root →
      ∃ t, Runs (readDmi root) t (TruenasPydmi.readDmi fs) ∧ Saw fs t := by
  refine ⟨fun t r h => ?_, ?_⟩
  · have hfresh := ((readDmi_guarded root).run h).1
    obtain ⟨ω, hω, heval⟩ := h.exists_oracle
      (oracle ⟨root, fun _ => false, fun _ => .ok (), fun _ => .ok []⟩)
      (nodup_of_fresh fun u c x v heq => (hfresh u c x v heq).1)
    obtain ⟨t₁, t₂, available, rfl, havailable, hraises⟩ := exists_runs_isAvailable h
    have heval' := havailable.eval_eq fun x hx => hω x (List.mem_append_left _ hx)
    cases available with
    | ok available =>
        exact Or.inr ⟨fileSystem root ω, rfl, saw_fileSystem root hω,
          (eval_readDmi root ω heval').symm.trans heval⟩
    | error e =>
        rcases ((isAvailable_guarded root).run havailable).2 with
          ⟨he, -⟩ | ⟨-, ⟨path, he, -⟩ | ⟨path, e', he, hmem⟩⟩
        · cases he
        · cases he
        · cases he
          exact Or.inl ⟨path, e, List.mem_append_left _ hmem, hraises e rfl⟩
  · rintro fs rfl
    obtain ⟨t, hruns, hagrees⟩ := (readDmi fs.sysfsRoot).exists_runs_eval (oracle fs)
    obtain ⟨available, heval⟩ := exists_eval_isAvailable fs.sysfsRoot fs
    rw [eval_readDmi _ _ heval, fileSystem_oracle] at hruns
    have hsaw := saw_fileSystem fs.sysfsRoot hagrees
    rw [fileSystem_oracle] at hsaw
    exact ⟨t, hruns, hsaw⟩

end TruenasPydmi.World
