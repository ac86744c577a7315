import TaskLoop.Generator.Model
import TaskLoop.Proofs.Pattern.Key
import TaskLoop.Proofs.Text.Words
import TaskLoop.Proofs.Timestamp

/-!
How a plan is read from a reply. The lines that are not blank are read without the blanks around
them: the first is the strategy, and each numbered one is a step. So a plan comes back from a reply
that shows it line by line, however the lines are spaced.
-/

set_option autoImplicit false

namespace TaskLoop

namespace Text

/-! ### Visible lines -/

/-- The lines of a text that are not blank, without the blanks around them. -/
def visibleLines (text : List Char) : List (List Char) :=
  ((splitBy (· == '\n') text).map trim).filter fun line => !line.isEmpty

/-- A text that shows lines: there are blanks around each, and blank lines between them. -/
inductive Shows : List (List Char) → List Char → Prop where
  | nothing {blanks : List Char} (blank : ∀ c ∈ blanks, isBlank c = true) : Shows [] blanks
  | last {front line back : List Char} (before : ∀ c ∈ front, isBlank c = true)
    (behind : ∀ c ∈ back, isBlank c = true) : Shows [line] (front ++ line ++ back)
  | line {front line back text : List Char} {lines : List (List Char)}
    (before : ∀ c ∈ front, isBlank c = true) (behind : ∀ c ∈ back, isBlank c = true)
    (others : Shows lines text) : Shows (line :: lines) (front ++ line ++ back ++ '\n' :: text)

theorem visibleLines_eq (text : List Char) :
    ((lines text).map trim).filter (fun line => !line.isEmpty) = visibleLines text := by
  obtain ⟨front, last, cut, isLines⟩ := exists_lines text
  have same : (front.map dropReturn).map trim = front.map trim := by
    rw [List.map_map]
    exact List.map_congr_left fun line _ => trim_dropReturn line
  rw [isLines, visibleLines, cut, List.map_append, same, List.map_append]
  cases last with
  | nil => simp [trim, trimBy]
  | cons c last => rw [if_neg (List.cons_ne_nil c last)]

theorem visibleLines_append (front back : List Char) :
    visibleLines (front ++ '\n' :: back) = visibleLines front ++ visibleLines back := by
  rw [visibleLines, splitBy_append_cons front back (by rfl), List.map_append,
    List.filter_append, visibleLines, visibleLines]

theorem visibleLines_cons_blank {c : Char} (blank : isBlank c = true) (text : List Char) :
    visibleLines (c :: text) = visibleLines text := by
  by_cases ends : c = '\n'
  · subst ends
    exact visibleLines_append [] text
  · rw [visibleLines, visibleLines, splitBy, if_neg (by simpa using ends)]
    cases cut : splitBy (· == '\n') text with
    | nil => exact absurd cut (splitBy_ne_nil text)
    | cons part parts => simp only [List.map_cons, trim_cons_blank part blank]

theorem visibleLines_blanks_append {blanks : List Char} (blank : ∀ c ∈ blanks, isBlank c = true)
    (text : List Char) : visibleLines (blanks ++ text) = visibleLines text := by
  induction blanks with
  | nil => rfl
  | cons c blanks ih =>
    obtain ⟨first, others⟩ := List.forall_mem_cons.mp blank
    rw [List.cons_append, visibleLines_cons_blank first, ih others]

theorem visibleLines_blanks {blanks : List Char} (blank : ∀ c ∈ blanks, isBlank c = true) :
    visibleLines blanks = [] := by
  have nothing := visibleLines_blanks_append blank []
  rwa [List.append_nil] at nothing

theorem visibleLines_line {line : List Char} (oneLine : '\n' ∉ line) (visible : trim line ≠ []) :
    visibleLines line = [trim line] := by
  rw [visibleLines, splitBy_of_none (ne_newline oneLine)]
  simp [visible]

/-- The blanks behind a line may end it, and be lines of their own. -/
theorem visibleLines_append_blanks {line blanks : List Char} (oneLine : '\n' ∉ line)
    (visible : trim line ≠ []) (blank : ∀ c ∈ blanks, isBlank c = true) :
    visibleLines (line ++ blanks) = [trim line] := by
  have cut {back : List Char} (within : '\n' ∉ back) (blank : ∀ c ∈ back, isBlank c = true) :
      visibleLines (line ++ back) = [trim line] := by
    have same := trim_append_blanks line blank
    rw [visibleLines_line, same]
    · exact fun member => (List.mem_append.mp member).elim oneLine within
    · rwa [same]
  by_cases ends : '\n' ∈ blanks
  · obtain ⟨back, rest, rfl, within⟩ := List.eq_append_cons_of_mem ends
    obtain ⟨behind, others⟩ := List.forall_mem_append.mp blank
    rw [← List.append_assoc, visibleLines_append, cut within behind,
      visibleLines_blanks (List.forall_mem_cons.mp others).2, List.append_nil]
  · exact cut ends blank

/-- The lines that a text shows are its visible lines. -/
theorem visibleLines_of_shows {lines : List (List Char)} {text : List Char}
    (shows : Shows lines text) (each : ∀ line ∈ lines, '\n' ∉ line ∧ trim line ≠ []) :
    visibleLines text = lines.map trim := by
  induction shows with
  | nothing blank => exact visibleLines_blanks blank
  | last before behind =>
    obtain ⟨oneLine, visible⟩ := List.forall_mem_singleton.mp each
    rw [List.append_assoc, visibleLines_blanks_append before,
      visibleLines_append_blanks oneLine visible behind]
    rfl
  | line before behind _ ih =>
    obtain ⟨⟨oneLine, visible⟩, others⟩ := List.forall_mem_cons.mp each
    rw [visibleLines_append, List.append_assoc, visibleLines_blanks_append before,
      visibleLines_append_blanks oneLine visible behind, ih others]
    rfl

end Text

namespace Strategy

/-- A text on one line without blanks at its ends. -/
structure OneLine (text : String) : Prop where
  trimmed : Text.trim text.toList = text.toList
  noFeed : '\n' ∉ text.toList

/-- The lines of a plan: the strategy, and the steps with their numbers. -/
def planLines (summary : String) (steps : List String) : List String :=
  summary :: (steps.zipIdx 1).map fun (step, number) => s!"{number}. {step}"

end Strategy

namespace Generator.Model

open Strategy Text

variable {step summary : String} {steps : List String} {number : Nat}

/-! ### Numbered lines -/

theorem toList_numbered (number : Nat) (step : String) :
    s!"{number}. {step}".toList = Decimal.digitsOf number ++ '.' :: ' ' :: step.toList := by
  have digits : (toString number).toList = Decimal.digitsOf number := Nat.toList_repr
  simp only [String.toList_append, digits, List.append_assoc]
  rfl

theorem not_mem_digitsOf {c : Char} (other : c.isDigit = false) : c ∉ Decimal.digitsOf number := by
  intro member
  rw [Decimal.isDigit_digitsOf c member] at other
  cases other

theorem tight_digitsOf (number : Nat) : Tight (Decimal.digitsOf number) where
  first c isFirst := Timestamp.isBlank_of_isDigit
    (Decimal.isDigit_digitsOf c (List.mem_of_mem_head? isFirst))
  last c isLast := Timestamp.isBlank_of_isDigit
    (Decimal.isDigit_digitsOf c (List.mem_of_getLast? isLast))

theorem isStepNumber_digitsOf (number : Nat) :
    isStepNumber (Decimal.digitsOf number) = decide (number < powerOfTwo 32) := by
  have unsigned : isStepNumber (Decimal.digitsOf number) =
      (Decimal.natBelow? (powerOfTwo 32) (Decimal.digitsOf number)).isSome := by
    rw [isStepNumber]
    intro digits signed
    have member : '+' ∈ Decimal.digitsOf number := by
      rw [signed]
      exact List.mem_cons_self
    exact not_mem_digitsOf (by decide) member
  have digits : (Decimal.digitsOf number).all Char.isDigit = true :=
    List.all_eq_true.mpr Decimal.isDigit_digitsOf
  have some := Decimal.digitsOf_ne_nil (n := number)
  rw [unsigned, Decimal.natBelow?, digits, Decimal.ofDigits_digitsOf]
  by_cases fits : number < powerOfTwo 32
  · simp [fits, some]
  · simp [fits, some]

/-- Nothing is left behind the full stop of a step that is empty. -/
theorem trim_numbered (isStep : OneLine step) :
    trim s!"{number}. {step}".toList = Decimal.digitsOf number ++ '.' ::
      if step.toList = [] then [] else ' ' :: step.toList := by
  have digits := tight_digitsOf number
  rw [toList_numbered]
  split
  · rename_i empty
    have blank : ∀ c ∈ [' '], isBlank c = true := List.forall_mem_singleton.mpr (by decide)
    have same := trim_append_blanks (Decimal.digitsOf number ++ ['.']) blank
    rw [List.append_assoc] at same
    rw [empty]
    exact same.trans (trim_of_tight (digits.mark (by decide) fun _ => nofun))
  · rename_i some
    apply trim_of_tight
    apply digits.mark (by decide)
    intro c isLast
    have tight := tight_trim step.toList
    rw [isStep.trimmed] at tight
    apply tight.last
    cases text : step.toList with
    | nil => exact absurd text some
    | cons d rest => rwa [text, List.getLast?_cons_cons] at isLast

/-- A numbered line is read as its step, unless its number is too large to be one. -/
theorem readStep?_numbered (isStep : OneLine step) :
    readStep? (trim s!"{number}. {step}".toList) =
      if number < powerOfTwo 32 then some step.toList else none := by
  have noStop : '.' ∉ Decimal.digitsOf number := not_mem_digitsOf (by decide)
  have own : trim (if step.toList = [] then [] else ' ' :: step.toList) = step.toList := by
    split
    · rename_i empty
      rw [empty]
      rfl
    · rw [trim_cons_blank _ (by decide), isStep.trimmed]
  rw [trim_numbered isStep, readStep?, splitFirst?_append noStop]
  simp only [trim_of_tight (tight_digitsOf number), isStepNumber_digitsOf, decide_eq_true_eq, own]

/-- Steps are read up to the last number that fits. -/
theorem readSteps_numbered (each : ∀ step ∈ steps, OneLine step) (first : Nat) :
    ((((steps.zipIdx first).map fun (step, number) => s!"{number}. {step}").map
        String.toList).map trim).filterMap readStep? =
      (steps.take (powerOfTwo 32 - first)).map String.toList := by
  induction steps generalizing first with
  | nil => simp
  | cons step steps ih =>
    obtain ⟨isStep, others⟩ := List.forall_mem_cons.mp each
    have rest := ih others (first + 1)
    simp only [List.zipIdx_cons, List.map_cons, List.filterMap_cons, readStep?_numbered isStep]
    by_cases fits : first < powerOfTwo 32
    · have more : powerOfTwo 32 - first = powerOfTwo 32 - (first + 1) + 1 := by omega
      rw [if_pos fits, more, List.take_succ_cons, List.map_cons, rest]
    · have none : powerOfTwo 32 - first = 0 ∧ powerOfTwo 32 - (first + 1) = 0 := by omega
      rw [if_neg fits, rest, none.1, none.2, List.take_zero, List.take_zero]

/-! ### Plans -/

theorem shown_numbered (isStep : OneLine step) : '\n' ∉ s!"{number}. {step}".toList ∧
    trim s!"{number}. {step}".toList ≠ [] := by
  constructor
  · have digits : '\n' ∉ Decimal.digitsOf number := not_mem_digitsOf (by decide)
    rw [toList_numbered]
    simp [digits, isStep.noFeed]
  · rw [trim_numbered isStep]
    exact List.append_ne_nil_of_left_ne_nil Decimal.digitsOf_ne_nil _

theorem readPlan_eq {reply : String} (isSummary : OneLine summary) (some : summary ≠ "")
    (each : ∀ step ∈ steps, OneLine step)
    (shows : Shows ((planLines summary steps).map String.toList) reply.toList) :
    readPlan reply =
      { summary := summary, steps := steps.take (2 ^ 32 - 1), confidence := 0.7 } := by
  have visible : ∀ line ∈ (planLines summary steps).map String.toList,
      '\n' ∉ line ∧ trim line ≠ [] := by
    intro line member
    simp only [planLines, List.map_cons, List.map_map, List.mem_cons, List.mem_map] at member
    rcases member with rfl | ⟨⟨step, number⟩, isStep, rfl⟩
    · rw [isSummary.trimmed]
      exact ⟨isSummary.noFeed, fun empty => some (String.toList_eq_nil_iff.mp empty)⟩
    · exact shown_numbered (each step (List.fst_mem_of_mem_zipIdx isStep))
  have lines := visibleLines_of_shows shows visible
  have read := readSteps_numbered each 1
  rw [planLines, List.map_cons, List.map_cons, isSummary.trimmed] at lines
  have whole (steps : List String) : (steps.map String.toList).map String.ofList = steps := by
    simp
  simp only [readPlan, visibleLines_eq, lines, List.head?_cons, Option.getD_some, List.drop_one,
    List.tail_cons, read, whole, String.ofList_toList]
  rfl

/-- A plan is read from a reply that shows it line by line, whatever blanks and blank lines there
are around the lines: the strategy, and the steps in their order. Only the numbers from 2^32 on are
none of steps, and the lines that have them are passed over. -/
theorem reason_reads_plan {σ : Type} {complete : String → σ → Except Failure String × σ}
    (name task : String) (context : TaskContext) (exploration : Exploration) {state next : σ}
    {reply : String}
    (answered : complete (reasonPrompt task context exploration) state = (.ok reply, next))
    (isSummary : OneLine summary) (some : summary ≠ "") (each : ∀ step ∈ steps, OneLine step)
    (shows : Shows ((planLines summary steps).map String.toList) reply.toList) :
    (steps.length < 2 ^ 32 → (generator complete name).reason task context exploration state =
      (.ok { summary := summary, steps := steps, confidence := 0.7 }, next)) ∧
    (generator complete name).reason task context exploration state =
      (.ok { summary := summary, steps := steps.take (2 ^ 32 - 1), confidence := 0.7 }, next) := by
  have reads : (generator complete name).reason task context exploration state =
      (.ok { summary := summary, steps := steps.take (2 ^ 32 - 1), confidence := 0.7 }, next) := by
    show ask complete _ readPlan state = _
    rw [ask, answered]
    show (Except.ok (readPlan reply), next) = _
    rw [readPlan_eq isSummary some each shows]
  refine ⟨fun few => ?_, reads⟩
  rw [reads, List.take_of_length_le]
  omega

end Generator.Model

namespace Sample

open Generator.Model Strategy Text

/-- A reply with blank lines and blanks around its lines, of which one has an empty step. -/
def spacedReply : String := "\n \tDo it. Now\r\n\n1. \r\n  2. a. b\n\u00A0\n3. 4.\r5 \n\n"

theorem spacedReply_shows : Shows
    ((planLines "Do it. Now" ["", "a. b", "4.\r5"]).map String.toList) spacedReply.toList := by
  have blank {blanks : List Char} (all : blanks.all isBlank = true) :
      ∀ c ∈ blanks, isBlank c = true := List.all_eq_true.mp all
  have shows : Shows ["Do it. Now".toList, "1. ".toList, "2. a. b".toList, "3. 4.\r5".toList]
      (['\n', ' ', '\t'] ++ "Do it. Now".toList ++ ['\r'] ++ '\n' ::
        (['\n'] ++ "1. ".toList ++ ['\r'] ++ '\n' ::
          ([' ', ' '] ++ "2. a. b".toList ++ ['\n', '\u00A0'] ++ '\n' ::
            ([] ++ "3. 4.\r5".toList ++ [' ', '\n', '\n'])))) :=
    .line (blank (by decide)) (blank (by decide)) (.line (blank (by decide)) (blank (by decide))
      (.line (blank (by decide)) (blank (by decide))
        (.last (blank (by decide)) (blank (by decide)))))
  exact shows

theorem spaced_plan_read :
    (generator (fun _ state => (.ok spacedReply, state)) "m").reason "t" {} {} () =
      (.ok { summary := "Do it. Now", steps := ["", "a. b", "4.\r5"], confidence := 0.7 }, ()) :=
  (reason_reads_plan "m" "t" {} {} rfl ⟨by decide, by decide⟩ (by decide)
    (by
      intro step member
      simp only [List.mem_cons, List.not_mem_nil, or_false] at member
      rcases member with rfl | rfl | rfl
      · exact ⟨by decide, by decide⟩
      · exact ⟨by decide, by decide⟩
      · exact ⟨by decide, by decide⟩)
    spacedReply_shows).1 (by decide)

end Sample

end TaskLoop
