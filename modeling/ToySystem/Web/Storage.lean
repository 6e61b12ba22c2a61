import Mathlib.Data.List.Sort
import Mathlib.Logic.Function.Basic
import ToySystem.Backend.RecvLoop

namespace ToySystem.Web

open ToySystem.Backend

/-! # The robots in the database

`robots.go` of `toy-be/pkg/storage/bolt` and `storage.go` of `toy-be/pkg/robots`, over what
they use of package `storm`.
-/

/-- The fields of `RobotState`, as package `reflect` names them. -/
inductive RobotField where
  | id
  | hostName
  | temperature
  | lMotorSpeed
  | rMotorSpeed
  | lMotorState
  | rMotorState
deriving DecidableEq

def RobotField.ofName (name : List Char) : Option RobotField :=
  if name = "ID".toList then some .id
  else if name = "HostName".toList then some .hostName
  else if name = "Temperature".toList then some .temperature
  else if name = "LMotorSpeed".toList then some .lMotorSpeed
  else if name = "RMotorSpeed".toList then some .rMotorSpeed
  else if name = "LMotorState".toList then some .lMotorState
  else if name = "RMotorState".toList then some .rMotorState
  else none

def RobotField.copy (field : RobotField) (robot current : RobotState) : RobotState :=
  match field with
  | .id => { current with id := robot.id }
  | .hostName => { current with hostName := robot.hostName }
  | .temperature => { current with temperature := robot.temperature }
  | .lMotorSpeed => { current with lMotorSpeed := robot.lMotorSpeed }
  | .rMotorSpeed => { current with rMotorSpeed := robot.rMotorSpeed }
  | .lMotorState => { current with lMotorState := robot.lMotorState }
  | .rMotorState => { current with rMotorState := robot.rMotorState }

theorem RobotField.copy_id (field : RobotField) {robot current : RobotState}
    (same : current.id = robot.id) : (field.copy robot current).id = robot.id := by
  cases field with
  | id => rfl
  | _ => exact same

/-- What the file of the database reports, as package `os` tells errors apart. -/
inductive FileError where
  | permission
  | notExist
  | exist
  | other
deriving DecidableEq

inductive StormError where
  | notFound
  | alreadyExists
  /-- No structure, or one whose id is 0. -/
  | refused
  | file (err : FileError)
deriving DecidableEq

/-- What the backend calls of package `storm`, each in a transaction of its own.  The first
argument is the error of the file, if there is one; a pointer that is saved may be nil. -/
structure Storm where
  Db : Type
  one : Option FileError → Db → UInt64 → Except StormError RobotState
  all : Option FileError → Db → Except StormError (List RobotState)
  save : Option FileError → Db → Option RobotState → Except StormError Db
  updateField : Option FileError → Db → RobotState → RobotField → Except StormError Db
  deleteStruct : Option FileError → Db → RobotState → Except StormError Db

/-- The robot that is stored under an id. -/
def Storm.robot (storm : Storm) (db : storm.Db) (id : UInt64) : Option RobotState :=
  (storm.one none db id).toOption

/-- What the package documents of these calls. -/
structure Storm.Documented (storm : Storm) : Prop where
  keyed : ∀ db id p, storm.robot db id = some p → p.id = id
  no_zero : ∀ db, storm.robot db 0 = none
  one_fails : ∀ file db id, ∃ err, storm.one (some file) db id = .error err
  all_lists : ∀ db, ∃ listed, storm.all none db = .ok listed ∧
    ∀ p, p ∈ listed ↔ storm.robot db p.id = some p
  all_fails : ∀ file db, ∃ err, storm.all (some file) db = .error err
  save_stores : ∀ db p, p.id ≠ 0 → ∃ next, storm.save none db (some p) = .ok next ∧
    storm.robot next = Function.update (storm.robot db) p.id (some p)
  save_refuses : ∀ fault db data, (fault ≠ none ∨ ∀ p ∈ data, p.id = 0) →
    ∃ err, storm.save fault db data = .error err
  update_stores : ∀ db p field current, storm.robot db p.id = some current →
    ∃ next, storm.updateField none db p field = .ok next ∧
      storm.robot next = Function.update (storm.robot db) p.id (some (field.copy p current))
  update_refuses : ∀ fault db p field, (fault ≠ none ∨ storm.robot db p.id = none) →
    ∃ err, storm.updateField fault db p field = .error err
  delete_removes : ∀ db p, storm.robot db p.id ≠ none →
    ∃ next, storm.deleteStruct none db p = .ok next ∧
      storm.robot next = Function.update (storm.robot db) p.id none
  delete_refuses : ∀ fault db p, (fault ≠ none ∨ storm.robot db p.id = none) →
    ∃ err, storm.deleteStruct fault db p = .error err

inductive StorageError where
  | notExist
  | exist
  | emptyRobotname
  | rootUserDeletion
  | storm (err : StormError)
deriving DecidableEq

namespace RobotsBackend

variable (storm : Storm) (fault : Option FileError) (db : storm.Db)

def lookupError : StormError → StorageError
  | .notFound => .notExist
  | err => .storm err

/-- `GetBy` with a number. -/
def getBy (id : UInt64) : Except StorageError RobotState :=
  (storm.one fault db id).mapError lookupError

def gets : Except StorageError (List RobotState) :=
  (storm.all fault db).mapError lookupError

def saveError : StormError → StorageError
  | .alreadyExists => .exist
  | err => .storm err

def save (robot : Option RobotState) : Except StorageError storm.Db :=
  (storm.save fault db robot).mapError saveError

/-- One round of the loop of `Update`. -/
def updateField (robot : RobotState) (field : RobotField) : Except StorageError storm.Db :=
  (storm.updateField fault db robot field).mapError .storm

def deleteById (id : UInt64) : Except StorageError storm.Db :=
  (storm.deleteStruct fault db {
    id, hostName := [], temperature := [], lMotorSpeed := 0, rMotorSpeed := 0, lMotorState := 0,
    rMotorState := 0 }).mapError .storm

end RobotsBackend

namespace Storage

variable (storm : Storm) (fault : Option FileError) (db : storm.Db)

/-- `Clean` of a robot, without fields. -/
def clean (robot : RobotState) : Except StorageError RobotState :=
  match robot.clean [] with
  | some _ => .error .emptyRobotname
  | none => .ok robot

/-- `Get` with a number. -/
def get (id : UInt64) : Except StorageError RobotState :=
  (RobotsBackend.getBy storm fault db id).bind clean

def gets : Except StorageError (List RobotState) :=
  (RobotsBackend.gets storm fault db).bind fun robots => robots.mapM clean

/-- `Clean` without fields looks at nothing, so that the pointer may be nil. -/
def save (robot : Option RobotState) : Except StorageError storm.Db :=
  RobotsBackend.save storm fault db robot

/-- `Update` without fields. -/
def update (robot : Option RobotState) : Except StorageError storm.Db :=
  RobotsBackend.save storm fault db robot

/-- `Delete` with a number. -/
def delete (id : UInt64) : Except StorageError storm.Db :=
  if id = 1 then .error .rootUserDeletion else RobotsBackend.deleteById storm fault db id

end Storage

/-- The ids under which a robot is stored. -/
def Storm.ids (storm : Storm) (db : storm.Db) : Set UInt64 :=
  {id | (storm.robot db id).isSome = true}

/-- The id that `Save` stores a robot under. -/
def saveId (data : Option RobotState) : Option UInt64 :=
  data.bind fun p => if p.id = 0 then none else some p.id

section

variable {storm : Storm} {db : storm.Db} {id : UInt64} {fault : Option FileError}

theorem Storm.mem_ids : id ∈ storm.ids db ↔ (storm.robot db id).isSome = true := Iff.rfl

theorem Storm.Documented.zero (documented : storm.Documented) (db : storm.Db) :
    (0 : UInt64) ∉ storm.ids db := by
  simp [Storm.mem_ids, documented.no_zero db]

theorem ids_update {next : storm.Db} {place : UInt64} {p : Option RobotState}
    (changed : storm.robot next = Function.update (storm.robot db) place p) :
    id ∈ storm.ids next ↔ if id = place then p.isSome = true else id ∈ storm.ids db := by
  rw [Storm.mem_ids, changed]
  by_cases same : id = place
  · subst same
    simp
  · rw [Function.update_of_ne same, if_neg same]
    rfl

theorem Storage.get_eq : Storage.get storm fault db id = RobotsBackend.getBy storm fault db id := by
  have clean (robot : RobotState) : Storage.clean robot = .ok robot := by
    simp [Storage.clean, RobotState.clean_nil]
  unfold Storage.get
  cases RobotsBackend.getBy storm fault db id with
  | error err => rfl
  | ok robot => exact clean robot

theorem Storage.gets_eq : Storage.gets storm fault db = RobotsBackend.gets storm fault db := by
  have clean : Storage.clean = pure := by
    funext robot
    simp only [Storage.clean, RobotState.clean_nil]
    rfl
  unfold Storage.gets
  cases RobotsBackend.gets storm fault db with
  | error err => rfl
  | ok robots =>
      rw [clean]
      exact List.mapM_pure.trans (congrArg Except.ok (List.map_id robots))

/-- `Get` returns the robot that is stored, or an error. -/
theorem Storage.get_returns (documented : storm.Documented) :
    (∃ p, Storage.get storm fault db id = .ok p ∧ fault = none ∧ storm.robot db id = some p) ∨
      ∃ err, Storage.get storm fault db id = .error err ∧ (fault ≠ none ∨ id ∉ storm.ids db) := by
  rw [Storage.get_eq, RobotsBackend.getBy]
  cases fault with
  | some file =>
      obtain ⟨err, failed⟩ := documented.one_fails file db id
      exact .inr ⟨_, by rw [failed]; rfl, .inl (by simp)⟩
  | none =>
      cases found : storm.one none db id with
      | ok p => exact .inl ⟨p, rfl, rfl, by simp [Storm.robot, found, Except.toOption]⟩
      | error err =>
          refine .inr ⟨_, rfl, .inr ?_⟩
          simp [Storm.mem_ids, Storm.robot, found, Except.toOption]

theorem Storage.gets_returns (documented : storm.Documented) :
    (∃ listed, Storage.gets storm fault db = .ok listed ∧ fault = none ∧
        ∀ p, p ∈ listed ↔ storm.robot db p.id = some p) ∨
      ∃ err, Storage.gets storm fault db = .error err ∧ fault ≠ none := by
  rw [Storage.gets_eq, RobotsBackend.gets]
  cases fault with
  | some file =>
      obtain ⟨err, failed⟩ := documented.all_fails file db
      exact .inr ⟨_, by rw [failed]; rfl, by simp⟩
  | none =>
      obtain ⟨listed, found, members⟩ := documented.all_lists db
      exact .inl ⟨listed, by rw [found]; rfl, rfl, members⟩

theorem Storage.mem_save (documented : storm.Documented) (data : Option RobotState) :
    id ∈ storm.ids ((Storage.save storm fault db data).toOption.getD db) ↔
      id ∈ storm.ids db ∨ fault = none ∧ saveId data = some id := by
  by_cases refused : fault ≠ none ∨ ∀ p ∈ data, p.id = 0
  · obtain ⟨err, failed⟩ := documented.save_refuses fault db data refused
    have nothing : ¬ (fault = none ∧ saveId data = some id) := by
      rintro ⟨works, saved⟩
      obtain ⟨p, isData, stored⟩ := Option.bind_eq_some_iff.mp saved
      have zero : p.id = 0 := refused.resolve_left (absurd works) p isData
      simp [zero] at stored
    simp [Storage.save, RobotsBackend.save, failed, Except.mapError, Except.toOption, nothing]
  · rw [not_or, not_not] at refused
    obtain ⟨rfl, stored⟩ := refused
    push Not at stored
    obtain ⟨p, isData, nonzero⟩ := stored
    obtain rfl := Option.mem_def.mp isData
    obtain ⟨next, saved, changed⟩ := documented.save_stores db p nonzero
    have ids := @ids_update storm db id next p.id (some p) changed
    simp only [Storage.save, RobotsBackend.save, saved, Except.mapError, Except.toOption,
      Option.getD_some, ids, saveId, Option.bind_some, if_neg nonzero, true_and,
      Option.some.injEq]
    grind

theorem RobotsBackend.mem_updateField (documented : storm.Documented) (p : RobotState)
    (field : RobotField) :
    id ∈ storm.ids ((RobotsBackend.updateField storm fault db p field).toOption.getD db) ↔
      id ∈ storm.ids db := by
  by_cases refused : fault ≠ none ∨ storm.robot db p.id = none
  · obtain ⟨err, failed⟩ := documented.update_refuses fault db p field refused
    simp [RobotsBackend.updateField, failed, Except.mapError, Except.toOption]
  · rw [not_or, not_not] at refused
    obtain ⟨rfl, stored⟩ := refused
    obtain ⟨current, found⟩ := Option.ne_none_iff_exists'.mp stored
    obtain ⟨next, updated, changed⟩ := documented.update_stores db p field current found
    have ids := @ids_update storm db id next p.id _ changed
    simp only [RobotsBackend.updateField, updated, Except.mapError, Except.toOption,
      Option.getD_some, ids]
    split
    · next same =>
        rw [same]
        exact ⟨fun _ => by simp [Storm.mem_ids, found], fun _ => rfl⟩
    · rfl

/-- The first robot is never deleted. -/
theorem Storage.mem_delete (documented : storm.Documented) (deleted : UInt64) :
    id ∈ storm.ids ((Storage.delete storm fault db deleted).toOption.getD db) ↔
      id ∈ storm.ids db ∧ (id ≠ deleted ∨ deleted = 1 ∨ fault ≠ none) := by
  by_cases first : deleted = 1
  · simp [Storage.delete, first, Except.toOption]
  · have other : Storage.delete storm fault db deleted =
        RobotsBackend.deleteById storm fault db deleted := if_neg first
    rw [other, RobotsBackend.deleteById]
    simp only [first, false_or]
    set p : RobotState := {
      id := deleted, hostName := [], temperature := [], lMotorSpeed := 0, rMotorSpeed := 0,
      lMotorState := 0, rMotorState := 0 }
    by_cases refused : fault ≠ none ∨ storm.robot db p.id = none
    · obtain ⟨err, failed⟩ := documented.delete_refuses fault db p refused
      simp only [failed, Except.mapError, Except.toOption, Option.getD_none]
      refine ⟨fun stored => ⟨stored, ?_⟩, And.left⟩
      by_cases works : fault = none
      · left
        rintro rfl
        rw [Storm.mem_ids, refused.resolve_left (absurd works)] at stored
        cases stored
      · exact .inr works
    · rw [not_or, not_not] at refused
      obtain ⟨rfl, stored⟩ := refused
      obtain ⟨next, removed, changed⟩ := documented.delete_removes db p stored
      have ids := @ids_update storm db id next p.id none changed
      simp only [removed, Except.mapError, Except.toOption, Option.getD_some, ids]
      have same : p.id = deleted := rfl
      rw [same]
      by_cases here : id = deleted <;> simp [here]

end

/-- The robots in the database, with all their ids in the order of the bucket. -/
structure Bucket where
  ids : List UInt64
  db : Database
  complete : ∀ id, id ∈ ids ↔ (db.robot id).isSome = true

namespace Bucket

def save (bucket : Bucket) (robot : RobotState) : Bucket where
  ids := if robot.id ∈ bucket.ids then bucket.ids
    else bucket.ids.orderedInsert (fun one other => one ≤ other) robot.id
  db := bucket.db.save robot
  complete := by
    intro id
    have before := bucket.complete id
    by_cases same : id = robot.id
    · subst same
      by_cases member : robot.id ∈ bucket.ids <;> simp [member, Database.save]
    · by_cases member : robot.id ∈ bucket.ids <;> simp [member, same, Database.save, before]

def delete (bucket : Bucket) (id : UInt64) : Bucket where
  ids := bucket.ids.filter fun other => other ≠ id
  db := {
    robot := fun other => if other = id then none else bucket.db.robot other
    keyed := by
      intro other p stored
      split at stored
      · cases stored
      · exact bucket.db.keyed other p stored }
  complete := by
    intro other
    have before := bucket.complete other
    by_cases same : other = id <;> simp [same, before]

theorem robot_save (bucket : Bucket) (p : RobotState) :
    (bucket.save p).db.robot = Function.update bucket.db.robot p.id (some p) := by
  funext id
  by_cases same : id = p.id <;> simp [save, Database.save, same]

theorem robot_delete (bucket : Bucket) (id : UInt64) :
    (bucket.delete id).db.robot = Function.update bucket.db.robot id none := by
  funext other
  by_cases same : other = id <;> simp [delete, same]

end Bucket

/-- Package `storm` over a bucket that has no robot with the id 0. -/
def bucketStorm : Storm where
  Db := { bucket : Bucket // bucket.db.robot 0 = none }
  one fault db id := fault.elim ((db.val.db.robot id).elim (.error .notFound) .ok) (.error <| .file ·)
  all fault db := fault.elim (.ok (db.val.ids.filterMap db.val.db.robot)) (.error <| .file ·)
  save fault db data := fault.elim
    (data.elim (.error .refused) fun p =>
      if zero : p.id = 0 then .error .refused
      else .ok ⟨db.val.save p, by
        simp [Bucket.robot_save, Function.update_of_ne (Ne.symm zero), db.property]⟩)
    (.error <| .file ·)
  updateField fault db p field := fault.elim
    (if zero : p.id = 0 then .error .refused
      else (db.val.db.robot p.id).elim (.error .notFound) fun current =>
        if same : current.id = p.id then
          .ok ⟨db.val.save (field.copy p current), by
            have nonzero := Ne.symm zero
            rw [← field.copy_id same] at nonzero
            simp [Bucket.robot_save, Function.update_of_ne nonzero, db.property]⟩
        else .error .refused)
    (.error <| .file ·)
  deleteStruct fault db p := fault.elim
    (if p.id = 0 then .error .refused
      else if (db.val.db.robot p.id).isSome then
        .ok ⟨db.val.delete p.id, by
          by_cases zero : 0 = p.id
          · simp [Bucket.robot_delete, zero]
          · simp [Bucket.robot_delete, Function.update_of_ne zero, db.property]⟩
      else .error .notFound)
    (.error <| .file ·)

theorem bucketStorm_robot (db : bucketStorm.Db) : bucketStorm.robot db = db.val.db.robot := by
  funext id
  simp only [Storm.robot, bucketStorm, Option.elim_none]
  cases db.val.db.robot id <;> rfl

theorem bucketStorm_documented : bucketStorm.Documented where
  keyed db id p stored := by
    rw [bucketStorm_robot] at stored
    exact db.val.db.keyed id p stored
  no_zero db := by
    rw [bucketStorm_robot]
    exact db.property
  one_fails file db id := ⟨_, rfl⟩
  all_lists db := by
    refine ⟨_, rfl, fun p => ?_⟩
    rw [bucketStorm_robot, List.mem_filterMap]
    constructor
    · rintro ⟨id, _, stored⟩
      rwa [db.val.db.keyed id p stored]
    · exact fun stored => ⟨p.id, (db.val.complete p.id).mpr (by simp [stored]), stored⟩
  all_fails file db := ⟨_, rfl⟩
  save_stores db p nonzero := by
    refine ⟨⟨db.val.save p, ?_⟩, ?_, ?_⟩
    · simp [Bucket.robot_save, Function.update_of_ne (Ne.symm nonzero), db.property]
    · simp [bucketStorm, nonzero]
    · rw [bucketStorm_robot db]
      exact (bucketStorm_robot _).trans (Bucket.robot_save db.val p)
  save_refuses fault db data refused := by
    cases fault with
    | some file => exact ⟨_, rfl⟩
    | none =>
        cases data with
        | none => exact ⟨_, rfl⟩
        | some p =>
            have zero : p.id = 0 := refused.resolve_left (by simp) p rfl
            exact ⟨.refused, by simp [bucketStorm, zero]⟩
  update_stores db p field current stored := by
    rw [bucketStorm_robot] at stored
    have same := db.val.db.keyed p.id current stored
    have nonzero : p.id ≠ 0 := by
      intro zero
      rw [zero, db.property] at stored
      cases stored
    refine ⟨⟨db.val.save (field.copy p current), ?_⟩, ?_, ?_⟩
    · have other := Ne.symm nonzero
      rw [← field.copy_id same] at other
      simp [Bucket.robot_save, Function.update_of_ne other, db.property]
    · simp [bucketStorm, nonzero, stored, same]
    · have changed := Bucket.robot_save db.val (field.copy p current)
      rw [field.copy_id same] at changed
      rw [bucketStorm_robot db]
      exact (bucketStorm_robot _).trans changed
  update_refuses fault db p field refused := by
    cases fault with
    | some file => exact ⟨_, rfl⟩
    | none =>
        have missing := refused.resolve_left (by simp)
        rw [bucketStorm_robot] at missing
        by_cases zero : p.id = 0
        · exact ⟨.refused, by simp [bucketStorm, zero]⟩
        · exact ⟨.notFound, by simp [bucketStorm, zero, missing]⟩
  delete_removes db p stored := by
    rw [bucketStorm_robot] at stored
    have nonzero : p.id ≠ 0 := by
      intro zero
      rw [zero] at stored
      exact stored db.property
    refine ⟨⟨db.val.delete p.id, ?_⟩, ?_, ?_⟩
    · simp [Bucket.robot_delete, Function.update_of_ne (Ne.symm nonzero), db.property]
    · simp [bucketStorm, nonzero, Option.isSome_iff_ne_none, stored]
    · rw [bucketStorm_robot db]
      exact (bucketStorm_robot _).trans (Bucket.robot_delete db.val p.id)
  delete_refuses fault db p refused := by
    cases fault with
    | some file => exact ⟨_, rfl⟩
    | none =>
        have missing := refused.resolve_left (by simp)
        rw [bucketStorm_robot] at missing
        by_cases zero : p.id = 0
        · exact ⟨.refused, by simp [bucketStorm, zero]⟩
        · exact ⟨.notFound, by simp [bucketStorm, zero, missing]⟩

end ToySystem.Web
