import TaskLoop.Checkpoint.Basic
import TaskLoop.Proofs.Disk.Path
import TaskLoop.Proofs.Iteration
import TaskLoop.Proofs.Session
import TaskLoop.Proofs.Text.Words

/-!
Checkpoints that were written to a file read back, intact, and their files have names of their own
in the directory of their session.
-/

set_option autoImplicit false

namespace TaskLoop

namespace CheckpointPayload

/-- A payload whose numbers have the widths they are kept in and whose times a clock shows. -/
structure Typed (payload : CheckpointPayload) : Prop where
  session : payload.session.Typed
  iteration : ∀ iteration ∈ payload.iteration, iteration.Fits

variable {payload : CheckpointPayload}

theorem ofJson?_toJson (typed : payload.Typed) (kept : payload.session.Kept) :
    ofJson? 126 payload.toJson = some payload := by
  have once : ["session", "iteration"].Nodup := by decide
  have iteration : Json.option? Iteration.ofJson?
      (.ofOption Iteration.toJson payload.iteration) = some payload.iteration := by
    cases found : payload.iteration with
    | none => rfl
    | some iteration =>
      show (Iteration.ofJson? iteration.toJson).map some = _
      rw [Iteration.ofJson?_toJson (typed.iteration iteration found)]
      rfl
  have session : Session.ofJson? (126 - 1) payload.session.toJson = some payload.session :=
    Session.ofJson?_toJson typed.session kept
  rw [ofJson?, toJson, Json.fields?_object]
  · simp only [Option.bind_eq_bind, Option.bind_some, Json.required_known, Json.Fields.optional,
      Json.orElse_known, List.mem_cons, true_or, or_true, List.lookup_cons, String.reduceBEq,
      beq_self_eq_true, Option.elim_some, session, iteration]
    rfl
  · exact once

/-- A payload that is read is one of which a file keeps all. -/
theorem typed_of_ofJson? {json : Json} (read : ofJson? 126 json = some payload) :
    payload.Typed ∧ payload.session.Kept := by
  simp only [ofJson?, Option.bind_eq_bind, Option.bind_eq_some_iff] at read
  obtain ⟨fields, -, session, sessionRead, iteration, iterationRead, same⟩ := read
  cases same
  obtain ⟨_, sessionRead⟩ := Json.of_required sessionRead
  obtain ⟨typed, kept⟩ := Session.typed_of_ofJson? sessionRead
  refine ⟨⟨typed, ?_⟩, kept⟩
  intro iteration found
  cases found
  obtain ⟨_, read⟩ := Json.of_optional iterationRead
  exact Iteration.fits_of_ofJson? read

/-- A payload that can be read back is of a session of which a file keeps all. -/
theorem kept_of_read {result : CheckpointPayload}
    (read : ofJson? 126 payload.toJson = some result) : payload.session.Kept := by
  have once : ["session", "iteration"].Nodup := by decide
  rw [ofJson?, toJson, Json.fields?_object] at read
  · simp only [Option.bind_eq_bind, Option.bind_some, Option.bind_eq_some_iff] at read
    obtain ⟨_, read, -⟩ := read
    exact Session.kept_of_read (Json.of_required_known (by decide) rfl read)
  · exact once

theorem printable_toJson (typed : payload.session.context.Typed) :
    Json.Printable payload.toJson := by
  have iteration : Json.Printable (.ofOption Iteration.toJson payload.iteration) := by
    cases payload.iteration with
    | none => trivial
    | some iteration => exact iteration.printable_toJson
  exact ⟨Session.printable_toJson typed, iteration, trivial⟩

end CheckpointPayload

namespace Checkpoint

variable {checkpoint : Checkpoint}

/-- A checkpoint whose numbers have the widths they are kept in and whose times a clock shows. -/
structure Typed (checkpoint : Checkpoint) : Prop where
  version : checkpoint.version < powerOfTwo 32
  createdAt : checkpoint.createdAt.Shown
  payload : checkpoint.payload.Typed

/-- The names of the members of a checkpoint in a file. -/
def names : List String :=
  ["format_version", "id", "session_id", "label", "created_at", "checksum", "payload"]

/-- The members of a checkpoint in a file. -/
def members (checkpoint : Checkpoint) : List (String × Json) :=
  [("format_version", .ofNat checkpoint.version), ("id", .string checkpoint.id),
    ("session_id", .string checkpoint.session), ("label", .string checkpoint.label),
    ("created_at", .ofTimestamp checkpoint.createdAt), ("checksum", .string checkpoint.checksum),
    ("payload", checkpoint.payload.toJson)]

/-- The members of a checkpoint are read in any order, and others beside them do not count. It is
the checkpoint that was written as far as its payload is read as it was. -/
theorem ofJson?_members {members : List (String × Json)} (once : (members.map Prod.fst).Nodup)
    (written : ∀ name ∈ names, members.lookup name = checkpoint.members.lookup name)
    (version : checkpoint.version < powerOfTwo 32) (shown : checkpoint.createdAt.Shown) :
    ofJson? (.object members) = (CheckpointPayload.ofJson? 126 checkpoint.payload.toJson).map
      fun payload => { checkpoint with payload := payload } := by
  have field {name : String} {value : Json} (isName : name ∈ names)
      (found : checkpoint.members.lookup name = some value) : members.lookup name = some value :=
    (written name isName).trans found
  rw [ofJson?, Timestamp.bind_read (Json.fields?_object once),
    Timestamp.bind_read (Json.required_read (by decide) (field (by decide) rfl)
      (Json.nat32?_ofNat version)),
    Timestamp.bind_read (Json.required_read (by decide) (field (by decide) rfl)
      (Json.string?_string _)),
    Timestamp.bind_read (Json.required_read (by decide) (field (by decide) rfl)
      (Json.string?_string _)),
    Timestamp.bind_read (Json.required_read (by decide) (field (by decide) rfl)
      (Json.string?_string _)),
    Timestamp.bind_read (Json.required_read (by decide) (field (by decide) rfl)
      (Json.timestamp?_ofTimestamp shown)),
    Timestamp.bind_read (Json.required_read (by decide) (field (by decide) rfl)
      (Json.string?_string _)),
    Json.required_known (by decide), field (by decide) rfl, Option.bind_some]
  cases CheckpointPayload.ofJson? 126 checkpoint.payload.toJson with
  | none => rfl
  | some payload => rfl

theorem ofJson?_object {members : List (String × Json)} (once : (members.map Prod.fst).Nodup)
    (written : ∀ name ∈ names, members.lookup name = checkpoint.members.lookup name)
    (typed : checkpoint.Typed) (kept : checkpoint.payload.session.Kept) :
    ofJson? (.object members) = some checkpoint := by
  rw [ofJson?_members once written typed.version typed.createdAt,
    CheckpointPayload.ofJson?_toJson typed.payload kept]
  rfl

theorem ofJson?_written (version : checkpoint.version < powerOfTwo 32)
    (shown : checkpoint.createdAt.Shown) :
    ofJson? checkpoint.toJson = (CheckpointPayload.ofJson? 126 checkpoint.payload.toJson).map
      fun payload => { checkpoint with payload := payload } := by
  have once : names.Nodup := by decide
  exact ofJson?_members once (fun _ _ => rfl) version shown

theorem ofJson?_toJson (typed : checkpoint.Typed) (kept : checkpoint.payload.session.Kept) :
    ofJson? checkpoint.toJson = some checkpoint := by
  have once : names.Nodup := by decide
  exact ofJson?_object once (fun _ _ => rfl) typed kept

/-- The payload of a checkpoint that is read is one of which a file keeps all. -/
theorem typed_of_ofJson? {json : Json} (read : ofJson? json = some checkpoint) :
    checkpoint.payload.Typed ∧ checkpoint.payload.session.Kept := by
  simp only [ofJson?, Option.bind_eq_bind, Option.bind_eq_some_iff] at read
  obtain ⟨fields, -, _, -, _, -, _, -, _, -, _, -, _, -, payload, read, same⟩ := read
  cases same
  obtain ⟨_, read⟩ := Json.of_required read
  exact CheckpointPayload.typed_of_ofJson? read

theorem printable_toJson (typed : checkpoint.payload.session.context.Typed) :
    Json.Printable checkpoint.toJson :=
  ⟨Json.printable_ofNat _, trivial, trivial, trivial, trivial, trivial,
    CheckpointPayload.printable_toJson typed, trivial⟩

theorem typed_new {payload : CheckpointPayload} (typed : payload.Typed) (id label : String)
    {now : Timestamp} (shown : now.Shown) : (new id payload label now).Typed :=
  ⟨Nat.one_lt_two_pow (by decide), shown, typed⟩

/-- A new checkpoint is intact. -/
theorem flaw?_new (id : String) (payload : CheckpointPayload) (label : String) (now : Timestamp) :
    (new id payload label now).flaw? = none := by
  simp only [flaw?, new, bne_self_eq_false, Bool.false_eq_true, ↓reduceIte]

/-! ### File names -/

/-- The characters that a label may have in a file name. -/
def isSettled (c : Char) : Bool := Text.isAlphanumeric c || c == '-' || c == '_'

theorem isBlank_of_isSettled {c : Char} (settled : isSettled c = true) : Text.isBlank c = false := by
  rw [Bool.eq_false_iff]
  intro blank
  simp only [isSettled, Text.isAlphanumeric_of_isBlank blank, Bool.false_or, Bool.or_eq_true,
    beq_iff_eq] at settled
  rcases settled with rfl | rfl
  · exact absurd blank (by decide)
  · exact absurd blank (by decide)

theorem isSettled_of_mem {label : String} {c : Char} (member : c ∈ (settleLabel label).toList) :
    isSettled c = true := by
  have settles (c : Char) :
      isSettled (if Text.isAlphanumeric c || c == '-' || c == '_' then c else '-') = true := by
    split
    · assumption
    · decide +kernel
  rw [settleLabel] at member
  split at member
  · have letters : "checkpoint".toList = ['c', 'h', 'e', 'c', 'k', 'p', 'o', 'i', 'n', 't'] := by
      decide
    have each : ∀ c ∈ ['c', 'h', 'e', 'c', 'k', 'p', 'o', 'i', 'n', 't'], isSettled c = true := by
      simp [isSettled, Text.isAlphanumeric, Char.isAlphanum]
    exact each c (letters ▸ member)
  · rw [String.toList_ofList] at member
    obtain ⟨c, -, rfl⟩ := List.mem_map.mp member
    exact settles c

theorem toList_settleLabel_ne_nil (label : String) : (settleLabel label).toList ≠ [] := by
  rw [settleLabel]
  split
  · decide
  · rename_i notEmpty
    rwa [String.toList_ofList, ne_eq, ← List.isEmpty_iff]

/-- The labels that stay as they are: those of letters, digits, hyphens and underscores only. -/
theorem settleLabel_eq_self {label : String} : settleLabel label = label ↔
    label.toList ≠ [] ∧ ∀ c ∈ label.toList, isSettled c = true := by
  constructor
  · intro same
    rw [← same]
    exact ⟨toList_settleLabel_ne_nil label, fun c => isSettled_of_mem⟩
  · rintro ⟨notEmpty, settled⟩
    have visible : ∀ c ∈ label.toList, Text.isBlank c = false := fun c member =>
      isBlank_of_isSettled (settled c member)
    have trimmed : Text.trim label.toList = label.toList := by
      have ends := Text.trimBy_between (List.forall_mem_nil _) (List.forall_mem_nil _)
        (fun c first => visible c (List.mem_of_mem_head? first))
        (fun c last => visible c (List.mem_of_mem_getLast? last))
      rwa [List.nil_append, List.append_nil] at ends
    have same : (label.toList.map fun c =>
        if Text.isAlphanumeric c || c == '-' || c == '_' then c else '-') = label.toList :=
      (List.map_congr_left fun c member => if_pos (settled c member)).trans (List.map_id' _)
    simp only [settleLabel, trimmed, same, List.isEmpty_iff, notEmpty, ↓reduceIte,
      String.ofList_toList]

/-- A label that is settled stays as it is. -/
theorem settleLabel_settleLabel (label : String) :
    settleLabel (settleLabel label) = settleLabel label :=
  settleLabel_eq_self.mpr ⟨toList_settleLabel_ne_nil label, fun _ => isSettled_of_mem⟩

theorem slash_not_mem_settleLabel (label : String) : '/' ∉ (settleLabel label).toList :=
  fun member => absurd (isSettled_of_mem member) (by decide +kernel)

theorem slash_not_mem_compactText (time : Timestamp) : '/' ∉ time.compactText := by
  have padded (width n : Nat) : '/' ∉ Timestamp.padded width n := fun member =>
    absurd (Timestamp.isDigit_padded '/' member) (by decide)
  have year (year : Int) : '/' ∉ Timestamp.yearText year := by
    rw [Timestamp.yearText]
    split
    · exact padded _ _
    · refine List.not_mem_cons_of_ne_of_not_mem ?_ (padded _ _)
      split <;> decide
  intro member
  simp only [Timestamp.compactText, List.mem_append, List.mem_cons, List.not_mem_nil, or_false]
    at member
  rcases member with ((((((member | member) | member) | same | member) | member) | member) | member)
    | same
  · exact year _ member
  · exact padded _ _ member
  · exact padded _ _ member
  · exact absurd same (by decide)
  · exact padded _ _ member
  · exact padded _ _ member
  · exact padded _ _ member
  · exact padded _ _ member
  · exact absurd same (by decide)

theorem toList_fileName (checkpoint : Checkpoint) : checkpoint.fileName.toList =
    checkpoint.createdAt.compactText ++ '_' :: checkpoint.label.toList ++ '_' ::
      checkpoint.id.toList.take 8 ++ ['.', 'j', 's', 'o', 'n'] := by
  simp only [fileName, String.toList_append, String.toList_ofList, List.append_assoc]
  rfl

/-- The file of a checkpoint lies in the directory of its session. -/
theorem plain_fileName (label : '/' ∉ checkpoint.label.toList)
    (id : '/' ∉ checkpoint.id.toList) : Path.Plain checkpoint.fileName := by
  refine Path.Plain.of_long ?_ ?_
  · rw [toList_fileName]
    simp only [List.length_append, List.length_cons, List.length_nil]
    omega
  · rw [toList_fileName]
    simp only [List.mem_append, List.mem_cons, not_or]
    refine ⟨⟨⟨slash_not_mem_compactText _, by decide, label⟩, by decide, ?_⟩, by decide⟩
    exact fun member => id (List.mem_of_mem_take member)

theorem extension?_fileName (plain : Path.Plain checkpoint.fileName) :
    (Path.mk checkpoint.fileName).extension? = some "json" := by
  rw [Path.extension?_plain plain (toList_fileName checkpoint) (by simp) (by decide)]

theorem lasting_fileName (plain : Path.Plain checkpoint.fileName) :
    (Path.mk checkpoint.fileName).extension? ≠ some "tmp" := by
  rw [extension?_fileName plain]
  decide

/-- Files of one name are of checkpoints whose identifiers begin alike. -/
theorem take_id_of_fileName {other : Checkpoint} (same : checkpoint.fileName = other.fileName)
    (long : 8 ≤ checkpoint.id.toList.length) (long' : 8 ≤ other.id.toList.length) :
    checkpoint.id.toList.take 8 = other.id.toList.take 8 := by
  have text := congrArg String.toList same
  rw [toList_fileName, toList_fileName] at text
  have length : (checkpoint.id.toList.take 8).length = (other.id.toList.take 8).length := by
    rw [List.length_take, List.length_take]
    omega
  have ends := List.append_inj_right' (List.append_cancel_right text) (by simp [length])
  exact (List.cons.inj ends).2

end Checkpoint

end TaskLoop
