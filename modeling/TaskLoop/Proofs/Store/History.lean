import TaskLoop.Proofs.Disk.Append
import TaskLoop.Proofs.Iteration
import TaskLoop.Proofs.Json.Torn
import TaskLoop.Proofs.Text.Lines
import TaskLoop.Proofs.Text.Utf8
import TaskLoop.Store.History

/-!
Reading a history whose last record is still being written. What is there of the record is passed
over, unless all of it but the line feed is there, or it ends inside a character. Added to again
and again, some of the additions cut short, a history holds the records of those that come to their
end, once one does, and they are read back in their order.
-/

set_option autoImplicit false

namespace TaskLoop.History

open Text (IsLine ended)

namespace Entry

/-- An entry whose numbers have the widths they are kept in. -/
def Fits (entry : Entry) : Prop := entry.iteration.Fits

variable {entry : Entry}

theorem printable_toJson (entry : Entry) : Json.Printable entry.toJson := by
  apply Json.printable_object
  intro member isMember
  rcases List.mem_cons.mp isMember with rfl | isMember
  · trivial
  · exact entry.iteration.printable_members member isMember

theorem ofJson?_toJson (fits : entry.Fits) : ofJson? entry.toJson = some entry := by
  have once : ("session_id" :: Iteration.fieldNames).Nodup := by decide
  have settled : ((("session_id", Json.string entry.session) :: entry.iteration.members).mapM
      fun member => Json.settle? 126 member.2).isSome = true := by
    apply Json.isSome_mapM
    intro member isMember
    rcases List.mem_cons.mp isMember with rfl | isMember
    · rfl
    · exact entry.iteration.isSome_settle?_members fits member isMember
  obtain ⟨values, settled⟩ := Option.isSome_iff_exists.mp settled
  have own : Json.fields? ["session_id"]
      (.object (("session_id", .string entry.session) :: entry.iteration.members)) = some
        ⟨Json.known ["session_id"]
          (("session_id", .string entry.session) :: entry.iteration.members), false⟩ :=
    Json.fields?_object once
  have rest : Json.fields? Iteration.fieldNames
      (.object (("session_id", .string entry.session) :: entry.iteration.members)) = some
        ⟨Json.known Iteration.fieldNames
          (("session_id", .string entry.session) :: entry.iteration.members), false⟩ :=
    Json.fields?_object once
  have iteration : Iteration.ofFields? ⟨Json.known Iteration.fieldNames
      (("session_id", .string entry.session) :: entry.iteration.members), false⟩ =
        some entry.iteration := by
    apply Iteration.ofFields?_known fits
    intro name isName
    have apart : (name == "session_id") = false := by
      rw [beq_eq_false_iff_ne]
      rintro rfl
      exact absurd isName (by decide)
    rw [List.lookup_cons, apart]
  rw [toJson, ofJson?]
  simp only [Option.bind_eq_bind, settled, own, rest, iteration, Option.bind_some,
    Json.required_known List.mem_cons_self, List.lookup_cons_self, Json.string?]
  rfl

/-- The line of an entry begins with a brace and ends with one. -/
theorem line_eq (entry : Entry) : ∃ inside, entry.line = '{' :: inside ++ ['}'] :=
  ⟨_, rfl⟩

theorem isLine_line (entry : Entry) : IsLine entry.line := by
  refine ⟨Json.newline_not_mem_compact entry.printable_toJson, ?_⟩
  obtain ⟨inside, line⟩ := entry.line_eq
  rw [line, List.getLast?_concat]
  decide

theorem ofText?_line (fits : entry.Fits) :
    (Json.ofText? entry.line).bind ofJson? = some entry := by
  rw [line, Json.ofText?_compact entry.printable_toJson]
  exact ofJson?_toJson fits

end Entry

/-! ### Lines -/

theorem ofLines_cons {line : List Char} {number : Nat} {rest : List (List Char × Nat)}
    {entry : Entry} (torn : Bool) (visible : Text.trim line ≠ [])
    (read : (Json.ofText? line).bind Entry.ofJson? = some entry) :
    ofLines torn ((line, number) :: rest) = (ofLines torn rest).map (entry :: ·) := by
  have notEmpty : (Text.trim line).isEmpty = false := List.isEmpty_eq_false_iff.mpr visible
  rw [ofLines, notEmpty]
  simp only [Bool.false_eq_true, ↓reduceIte, read]

/-- The lines of entries are read as the entries, in front of what the other lines are read as. -/
theorem ofLines_entries {entries : List Entry} (fits : ∀ entry ∈ entries, entry.Fits)
    (torn : Bool) (others : List (List Char)) (number : Nat) :
    ofLines torn ((entries.map Entry.line ++ others).zipIdx number) =
      (ofLines torn (others.zipIdx (number + entries.length))).map (entries ++ ·) := by
  induction entries generalizing number with
  | nil =>
    simp only [List.map_nil, List.nil_append, List.length_nil, Nat.add_zero]
    cases ofLines torn (others.zipIdx number) <;> rfl
  | cons entry entries ih =>
    obtain ⟨first, rest⟩ := List.forall_mem_cons.mp fits
    obtain ⟨inside, line⟩ := entry.line_eq
    have visible : Text.trim entry.line ≠ [] := by
      rw [line]
      exact Text.trim_cons_ne_nil (by decide)
    rw [List.map_cons, List.cons_append, List.zipIdx_cons,
      ofLines_cons torn visible (Entry.ofText?_line first), ih rest, List.length_cons]
    have place : number + 1 + entries.length = number + (entries.length + 1) := by omega
    rw [place]
    cases ofLines torn (others.zipIdx (number + (entries.length + 1))) <;> rfl

theorem isLine_of_entries (entries : List Entry) : ∀ line ∈ entries.map Entry.line, IsLine line := by
  intro line member
  obtain ⟨written, -, rfl⟩ := List.mem_map.mp member
  exact written.isLine_line

theorem ofLines_complete {entries : List Entry} (fits : ∀ entry ∈ entries, entry.Fits)
    (torn : Bool) : ofLines torn ((entries.map Entry.line).zipIdx 1) = .ok entries := by
  have read := ofLines_entries fits torn [] 1
  rw [List.append_nil] at read
  rw [read, List.zipIdx_nil, ofLines]
  exact congrArg Except.ok (List.append_nil entries)

/-- The text of a history: the lines of its entries. -/
theorem ofText_ended {entries : List Entry} (fits : ∀ entry ∈ entries, entry.Fits) :
    ofText (ended (entries.map Entry.line)) = .ok entries := by
  have lines := Text.lines_ended (isLine_of_entries entries) List.not_mem_nil
  rw [List.append_nil, if_pos rfl, List.append_nil] at lines
  rw [ofText, lines, ofLines_complete fits]

/-- The text of a history: the lines of its entries, and the beginning of another's. -/
theorem ofText_torn {entries : List Entry} {entry : Entry} {part more : List Char}
    (fits : ∀ entry ∈ entries, entry.Fits) (last : entry.Fits)
    (cut : entry.line = part ++ more) :
    ofText (ended (entries.map Entry.line) ++ part) =
      .ok (if more = [] then entries ++ [entry] else entries) := by
  have partLine : '\n' ∉ part := by
    intro member
    exact entry.isLine_line.oneLine (by rw [cut]; exact List.mem_append_left _ member)
  obtain ⟨inside, line⟩ := entry.line_eq
  rw [ofText, Text.lines_ended (isLine_of_entries entries) partLine]
  by_cases nothing : part = []
  · subst nothing
    have notAll : more ≠ [] := by
      rintro rfl
      rw [line] at cut
      exact List.cons_ne_nil _ _ cut
    rw [if_pos rfl, List.append_nil (entries.map Entry.line), ofLines_complete fits,
      if_neg notAll]
  -- The last line has no line feed, so it may be passed over.
  obtain ⟨others, part_eq⟩ : ∃ others, part = '{' :: others := by
    rw [line] at cut
    cases part with
    | nil => exact absurd rfl nothing
    | cons c others => exact ⟨others, by rw [(List.cons.inj cut).1]⟩
  have visible : Text.trim part ≠ [] := by
    rw [part_eq]
    exact Text.trim_cons_ne_nil (by decide)
  have torn : ((ended (entries.map Entry.line) ++ part).getLast? != some '\n') = true := by
    rw [bne_iff_ne, List.getLast?_append, List.getLast?_eq_some_getLast nothing, Option.some_or]
    intro newline
    rw [← Option.some.inj newline] at partLine
    exact partLine (List.getLast_mem nothing)
  rw [torn, if_neg nothing, ofLines_entries fits]
  by_cases all : more = []
  · subst all
    rw [List.append_nil] at cut
    have read := Entry.ofText?_line last
    rw [cut] at read
    rw [List.zipIdx_cons, ofLines_cons true visible read, if_pos rfl]
    rfl
  · have spells := Json.spells_compact entry.printable_toJson
    have unread : Json.ofText? part = none := by
      have line_eq : entry.toJson.compact = part ++ more := cut
      rw [line_eq] at spells
      exact Json.ofText?_torn spells nothing all
    have notEmpty : (Text.trim part).isEmpty = false := List.isEmpty_eq_false_iff.mpr visible
    rw [List.zipIdx_cons, List.zipIdx_nil, ofLines, notEmpty, if_neg all]
    simp only [Bool.false_eq_true, ↓reduceIte, unread, Option.bind_none, List.isEmpty_nil,
      Bool.and_self]
    exact congrArg Except.ok (List.append_nil entries)

/-! ### Files -/

/-- The record of an entry: its line and the line feed behind it, as bytes. -/
def Entry.record (entry : Entry) : List UInt8 := Text.Utf8.encode entry.line ++ [0x0A]

theorem record_eq (entry : Entry) :
    entry.record = Text.Utf8.encode (entry.line ++ ['\n']) := by
  rw [Entry.record, Text.Utf8.encode_append]
  rfl

theorem records_eq (entries : List Entry) :
    entries.flatMap Entry.record = Text.Utf8.encode (ended (entries.map Entry.line)) := by
  induction entries with
  | nil => rfl
  | cons entry entries ih =>
    rw [List.flatMap_cons, ih, record_eq, ← Text.Utf8.encode_append]
    rfl

/-- What a history is read as from the text of its file. -/
theorem read_of_text {path : Path} {host : Host} {bytes : List UInt8} {text : List Char}
    {entries : List Entry} (content : host.disk.read path = .ok bytes)
    (decoded : Text.Utf8.decode? bytes = some text) (parsed : ofText text = .ok entries) :
    read path host = .ok entries host := by
  have read_text : host.disk.readText path = .ok text := by
    simp only [Disk.readText, content, bind, Except.bind, decoded]
  simp only [read, Act.look, read_text, parsed]

theorem read_of_no_text {path : Path} {host : Host} {bytes : List UInt8}
    (content : host.disk.read path = .ok bytes) (undecoded : Text.Utf8.decode? bytes = none) :
    read path host = .error ((Failure.root DiskError.notText.message).within
      s!"Failed to read history: {path.text}") host := by
  have read_text : host.disk.readText path = .error .notText := by
    simp only [Disk.readText, content, bind, Except.bind, undecoded]
  simp only [read, Act.look, read_text]

/-- The beginning of a record is the beginning of its line, or ends inside a character. -/
theorem torn_record {entry : Entry} {torn missing : List UInt8}
    (cut : entry.record = torn ++ missing) (notAll : missing ≠ []) :
    (∃ part more, entry.line = part ++ more ∧ torn = Text.Utf8.encode part) ∨
      ∃ before c part, Text.Utf8.CutOf part c ∧ torn = Text.Utf8.encode before ++ part := by
  rw [record_eq] at cut
  obtain ⟨before, after, whole, rfl | ⟨c, rest, part, -, inside, rfl⟩⟩ :=
    Text.Utf8.prefix_encode ⟨missing, cut.symm⟩
  · left
    have left_over : after ≠ [] := by
      rintro rfl
      rw [whole, List.append_nil] at cut
      exact notAll (List.self_eq_append_right.mp cut)
    have ends := List.dropLast_concat_getLast left_over
    rw [← ends, ← List.append_assoc] at whole
    exact ⟨before, after.dropLast, (List.append_inj' whole rfl).1, rfl⟩
  · exact Or.inr ⟨before, c, part, inside, rfl⟩

/-- A history whose last record is cut off somewhere is read as the entries before it, unless the
cut stands right before the line feed, when the entry counts as written, or inside a character,
when nothing can be read. -/
theorem read_torn {path : Path} {host : Host} {entries : List Entry} {entry : Entry}
    {torn missing : List UInt8} (fits : ∀ entry ∈ entries, entry.Fits) (last : entry.Fits)
    (cut : entry.record = torn ++ missing) (notAll : missing ≠ [])
    (content : host.disk.read path = .ok (entries.flatMap Entry.record ++ torn)) :
    (read path host =
      if Text.Utf8.decode? torn = none then
        .error ((Failure.root DiskError.notText.message).within
          s!"Failed to read history: {path.text}") host
      else .ok (if torn = Text.Utf8.encode entry.line then entries ++ [entry] else entries) host) ∧
    (read path host = .ok entries host ↔
      Text.Utf8.decode? torn ≠ none ∧ torn ≠ Text.Utf8.encode entry.line) := by
  rw [records_eq] at content
  rcases torn_record cut notAll with ⟨part, more, line, rfl⟩ | ⟨before, c, part, inside, rfl⟩
  · have decoded : Text.Utf8.decode? (Text.Utf8.encode part) = some part :=
      Text.Utf8.decode?_encode part
    have complete : Text.Utf8.encode part = Text.Utf8.encode entry.line ↔ more = [] := by
      constructor
      · intro same
        rw [same, Text.Utf8.decode?_encode] at decoded
        rw [Option.some.inj decoded] at line
        exact List.self_eq_append_right.mp line
      · rintro rfl
        rw [line, List.append_nil]
    rw [← Text.Utf8.encode_append] at content
    have result := read_of_text content (Text.Utf8.decode?_encode _) (ofText_torn fits last line)
    rw [result, decoded]
    simp only [reduceCtorEq, ↓reduceIte, complete, ne_eq, not_false_eq_true, true_and]
    by_cases all : more = []
    · have longer : entries ++ [entry] ≠ entries := by
        intro same
        exact List.cons_ne_nil _ _ (List.append_right_eq_self.mp same)
      simp only [all, ↓reduceIte, EStateM.Result.ok.injEq, and_true, longer, not_true_eq_false]
    · simp only [all, ↓reduceIte, not_false_eq_true]
  · have undecoded : Text.Utf8.decode? (Text.Utf8.encode before ++ part) = none :=
      Text.Utf8.decode?_cut inside before
    rw [← List.append_assoc, ← Text.Utf8.encode_append] at content
    have result := read_of_no_text content (Text.Utf8.decode?_cut inside _)
    rw [result, undecoded]
    simp only [↓reduceIte, ne_eq, reduceCtorEq, not_true_eq_false, false_and, and_self]

end TaskLoop.History

namespace TaskLoop.Sample

open History

/-- The path of a history file. -/
def historyPath : Path := ⟨"history"⟩

/-- A host with nothing but a history file. -/
def historyHost (content : List UInt8) : Host :=
  .new ⟨OrderedMap.empty.insert ["history"] (.file content), []⟩ (fun _ => ⟨0, 0⟩) toString

/-- The first iteration of a session whose identifier is not in ASCII. -/
def entry : Entry := ⟨"é", .new 1 "task" ⟨0, 0⟩⟩

theorem entry_fits : entry.Fits where
  index := by decide
  attempts := by decide
  durations := by decide
  startedAt := ⟨by decide, by decide⟩
  failures := by
    intro failure none
    cases none

/-- One record and a second one cut off at its start, before its line feed, and inside its first
character that is not in ASCII. -/
theorem read_three_torn_histories :
    read historyPath (historyHost (entry.record ++ [])) =
        .ok [entry] (historyHost (entry.record ++ [])) ∧
      read historyPath (historyHost (entry.record ++ Text.Utf8.encode entry.line)) =
        .ok [entry, entry] (historyHost (entry.record ++ Text.Utf8.encode entry.line)) ∧
      read historyPath (historyHost (entry.record ++ entry.record.take 16)) =
        .error ((Failure.root DiskError.notText.message).within
          s!"Failed to read history: {historyPath.text}")
            (historyHost (entry.record ++ entry.record.take 16)) := by
  have fits : ∀ other ∈ [entry], other.Fits := by
    intro other member
    rw [List.mem_singleton.mp member]
    exact entry_fits
  have content (torn : List UInt8) : (historyHost (entry.record ++ torn)).disk.read historyPath =
      .ok ([entry].flatMap Entry.record ++ torn) := by
    rw [List.flatMap_singleton]
    rfl
  have started : entry.record ≠ [] := by decide +kernel
  have unfinished : entry.record.drop 16 ≠ [] := by decide +kernel
  have someLine : [] ≠ Text.Utf8.encode entry.line := by decide +kernel
  have nothing : Text.Utf8.decode? [] ≠ none := by
    have decoded : Text.Utf8.decode? [] = some [] := Text.Utf8.decode?_encode []
    rw [decoded]
    exact Option.some_ne_none _
  have inside : Text.Utf8.decode? (entry.record.take 16) = none := by decide +kernel
  refine ⟨?_, ?_, ?_⟩
  · exact (read_torn fits entry_fits (List.nil_append _).symm started (content [])).2.mpr
      ⟨nothing, someLine⟩
  · have result := (read_torn fits entry_fits rfl (List.cons_ne_nil _ _) (content _)).1
    rwa [if_neg (by rw [Text.Utf8.decode?_encode]; exact Option.some_ne_none _), if_pos rfl]
      at result
  · have cut : entry.record = entry.record.take 16 ++ entry.record.drop 16 :=
      (List.take_append_drop 16 _).symm
    have result := (read_torn fits entry_fits cut unfinished (content _)).1
    rwa [if_pos inside] at result

end TaskLoop.Sample

namespace TaskLoop.History

/-! ### Additions -/

open Disk (Standing)

variable {path : Path} {host : Host} {entries : List Entry} {entry : Entry}

/-- Additions one after the other, each with faults of its own on the host as the last one left
it: the entries of those that came to their end, and the host. -/
def appendAll (path : Path) : List (Entry × List (Option Nat)) → Host → List Entry × Host
  | [], host => ([], host)
  | (entry, faults) :: calls, host =>
    match append path entry { host with faults := faults } with
    | .ok _ after => (entry :: (appendAll path calls after).1, (appendAll path calls after).2)
    | .error _ after => appendAll path calls after

/-- The additions that come to their end do so in the order of the calls. -/
theorem appendAll_sublist (path : Path) (calls : List (Entry × List (Option Nat))) (host : Host) :
    (appendAll path calls host).1.Sublist (calls.map Prod.fst) := by
  induction calls generalizing host with
  | nil => exact .slnil
  | cons call calls ih =>
    obtain ⟨entry, faults⟩ := call
    rw [appendAll]
    split
    · exact (ih _).cons_cons entry
    · exact (ih _).cons entry

/-- Records end with a line feed. -/
theorem whole_records (entries : List Entry) : entries.flatMap Entry.record = [] ∨
    (entries.flatMap Entry.record).getLast? = some 10 := by
  rcases List.eq_nil_or_concat entries with rfl | ⟨before, last, rfl⟩
  · exact .inl rfl
  · right
    rw [List.concat_eq_append, List.flatMap_append, List.flatMap_singleton, Entry.record,
      ← List.append_assoc, List.getLast?_concat]

/-- An entry that is added has its record behind the others. When its addition fails no more than
the beginning of its record stands behind them, or all of it if the failure comes that late. -/
theorem append_ends (tidy : path.Tidy)
    (standing : Standing path (entries.flatMap Entry.record) host) :
    (append path entry).Ends host
      (fun _ after => after.disk.read path = .ok ((entries ++ [entry]).flatMap Entry.record))
      fun _ after => (∀ count, some count ∈ host.faults → count < entry.record.length) →
        Standing path (entries.flatMap Entry.record) after := by
  have oneLine : 10 ∉ Text.Utf8.encode entry.line :=
    Text.Utf8.newline_not_mem_encode entry.isLine_line.oneLine
  refine (Disk.appendLine_ends tidy (whole_records entries) oneLine standing).mono
    (fun _ after content => ?_) fun _ after come proper => ?_
  · rw [content, List.flatMap_append, List.flatMap_singleton, Entry.record]
  · rcases come with stands | ⟨-, count, found, late⟩
    · exact stands
    · have short := proper count found
      rw [Entry.record, List.length_append, List.length_singleton] at short
      omega

/-- Whatever becomes of each addition, the records of those that came to their end stand in the
file, and perhaps the beginning of one more. -/
theorem standing_appendAll (tidy : path.Tidy) {calls : List (Entry × List (Option Nat))}
    (proper : ∀ call ∈ calls, ∀ count, some count ∈ call.2 → count < call.1.record.length)
    (standing : Standing path (entries.flatMap Entry.record) host) :
    Standing path ((entries ++ (appendAll path calls host).1).flatMap Entry.record)
      (appendAll path calls host).2 := by
  induction calls generalizing host entries with
  | nil =>
    rw [appendAll, List.append_nil]
    exact standing
  | cons call calls ih =>
    obtain ⟨entry, faults⟩ := call
    obtain ⟨first, others⟩ := List.forall_mem_cons.mp proper
    have ends : (append path entry).Ends { host with faults := faults } _ _ :=
      append_ends tidy standing
    rw [appendAll]
    split
    · rename_i after ran
      rw [Act.Ends, ran] at ends
      have added := ih others (Disk.standing_of_read ends)
      rwa [List.append_assoc, List.singleton_append] at added
    · rename_i after ran
      rw [Act.Ends, ran] at ends
      exact ih others (ends first)

/-- A file of records is read as their entries. -/
theorem read_records (fits : ∀ entry ∈ entries, entry.Fits)
    (content : host.disk.read path = .ok (entries.flatMap Entry.record)) :
    read path host = .ok entries host := by
  rw [records_eq] at content
  exact read_of_text content (Text.Utf8.decode?_encode _) (ofText_ended fits)

/-- Once an addition comes to its end the file is the records of all additions that did, from the
first on, and is read as their entries in the order of the calls. The others may have been cut
short anywhere before the end of their record. -/
theorem read_appended {first after : Host} {calls : List (Entry × List (Option Nat))}
    {faults : List (Option Nat)} (tidy : path.Tidy)
    (empty : first.disk.node? (first.disk.destination path) = none ∨
      first.disk.node? (first.disk.destination path) = some (.file []))
    (proper : ∀ call ∈ calls, ∀ count, some count ∈ call.2 → count < call.1.record.length)
    (fits : ∀ call ∈ calls, call.1.Fits) (last : entry.Fits)
    (completed : append path entry { (appendAll path calls first).2 with faults := faults } =
      .ok () after) :
    after.disk.read path =
        .ok (((appendAll path calls first).1 ++ [entry]).flatMap Entry.record) ∧
      read path after = .ok ((appendAll path calls first).1 ++ [entry]) after ∧
      (appendAll path calls first).1.Sublist (calls.map Prod.fst) := by
  have start : Standing path (([] : List Entry).flatMap Entry.record) first := by
    rw [Standing]
    rcases empty with free | stands
    · rw [free]
      rfl
    · rw [stands]
      exact ⟨[], List.not_mem_nil, rfl⟩
  have standing := standing_appendAll tidy proper start
  have ends : (append path entry).Ends
      { (appendAll path calls first).2 with faults := faults } _ _ := append_ends tidy standing
  rw [Act.Ends, completed, List.nil_append] at ends
  have inOrder := appendAll_sublist path calls first
  refine ⟨ends, read_records ?_ ends, inOrder⟩
  intro other member
  rcases List.mem_append.mp member with earlier | same
  · obtain ⟨call, isCall, rfl⟩ := List.mem_map.mp (inOrder.subset earlier)
    exact fits call isCall
  · rw [List.mem_singleton.mp same]
    exact last

end TaskLoop.History

namespace TaskLoop.Sample

open History

/-- An addition that comes to its end, and one that is cut off inside a character. -/
def tornCalls : List (Entry × List (Option Nat)) := [(entry, []), (entry, [none, some 16])]

/-- A host without files. -/
def emptyHost : Host := .new ⟨.empty, []⟩ (fun _ => ⟨0, 0⟩) toString

theorem historyPath_tidy : historyPath.Tidy :=
  Path.tidy_of_last (c := 'y') (by decide) (by decide) (by decide)

theorem tornCalls_proper : ∀ call ∈ tornCalls, ∀ count, some count ∈ call.2 →
    count < call.1.record.length := by
  have long : 16 < entry.record.length := by decide +kernel
  intro call isCall count found
  simp only [tornCalls, List.mem_cons, List.not_mem_nil, or_false] at isCall
  rcases isCall with rfl | rfl
  · cases found
  · simp only [List.mem_cons, reduceCtorEq, Option.some.injEq, List.not_mem_nil, or_false,
      false_or] at found
    rw [found]
    exact long

theorem tornCalls_fit : ∀ call ∈ tornCalls, call.1.Fits := by
  intro call isCall
  simp only [tornCalls, List.mem_cons, List.not_mem_nil, or_false] at isCall
  rcases isCall with rfl | rfl
  · exact entry_fits
  · exact entry_fits

theorem completes_after_torn : ∃ after, append historyPath entry
    { (appendAll historyPath tornCalls emptyHost).2 with faults := [] } = .ok () after := by
  have completes : (match append historyPath entry
      { (appendAll historyPath tornCalls emptyHost).2 with faults := [] } with
    | .ok _ _ => true
    | .error _ _ => false) = true := by decide +kernel
  split at completes
  · rename_i after completed
    exact ⟨after, completed⟩
  · cases completes

theorem read_after_torn : ∃ after, append historyPath entry
      { (appendAll historyPath tornCalls emptyHost).2 with faults := [] } = .ok () after ∧
    read historyPath after = .ok [entry, entry] after := by
  have added : (appendAll historyPath tornCalls emptyHost).1 = [entry] := by decide +kernel
  obtain ⟨after, completed⟩ := completes_after_torn
  have result := (read_appended historyPath_tidy (.inl rfl) tornCalls_proper tornCalls_fit
    entry_fits completed).2.1
  rw [added] at result
  exact ⟨after, completed, result⟩

end TaskLoop.Sample
