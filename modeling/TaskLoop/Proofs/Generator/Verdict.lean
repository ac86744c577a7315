import TaskLoop.Generator.Model
import TaskLoop.Proofs.Json.Braces
import TaskLoop.Proofs.Json.Records

/-!
What a review makes of a reply with a verdict in it. The verdict is looked for by its braces, those
in the issues included, so it is found exactly if these close only what they open.
-/

set_option autoImplicit false

namespace TaskLoop

/-! ### Braces in a verdict -/

namespace Json

/-- Escaping adds and removes no braces. -/
theorem filter_isBrace_escapeChar (c : Char) :
    (escapeChar c).filter isBrace = [c].filter isBrace := by
  have control : ∀ n < 0x20, (['\\', 'u', '0', '0'] ++ (if n < 0x10 then ['0'] else []) ++
      Nat.toDigits 16 n).filter isBrace = [] := by
    decide
  unfold escapeChar
  split
  · rfl
  · rfl
  · rfl
  · rfl
  · rfl
  · rfl
  · rfl
  · split
    · next small =>
      have notOpening : c ≠ '\x7b' := by
        rintro rfl
        exact absurd small (by decide)
      have notClosing : c ≠ '\x7d' := by
        rintro rfl
        exact absurd small (by decide)
      have noBrace : isBrace c = false := by
        rw [isBrace, beq_eq_false_iff_ne.mpr notOpening, beq_eq_false_iff_ne.mpr notClosing]
        rfl
      rw [control c.toNat small, List.filter_cons, noBrace]
      rfl
    · rfl

theorem filter_isBrace_quoted (text : List Char) :
    (quoted text).filter isBrace = text.filter isBrace := by
  have inner : (text.flatMap escapeChar).filter isBrace = text.filter isBrace := by
    induction text with
    | nil => rfl
    | cons c text ih =>
      rw [List.flatMap_cons, List.filter_append, filter_isBrace_escapeChar, ih,
        ← List.filter_append]
      rfl
  rw [quoted, List.cons_append, List.filter_cons, List.filter_append, inner]
  exact List.append_nil _

theorem filter_isBrace_compactItems (texts : List String) :
    (compactItems (texts.map Json.string)).filter isBrace =
      (texts.flatMap String.toList).filter isBrace := by
  induction texts with
  | nil => rfl
  | cons text texts ih =>
    cases texts with
    | nil => simp only [List.map_cons, List.map_nil, compactItems, compact, filter_isBrace_quoted,
        List.flatMap_cons, List.flatMap_nil, List.append_nil]
    | cons next texts =>
      have comma (rest : List Char) : (',' :: rest).filter isBrace = rest.filter isBrace := rfl
      rw [List.map_cons] at ih
      rw [List.map_cons, List.map_cons, compactItems, List.filter_append, comma, ih, compact,
        filter_isBrace_quoted, ← List.filter_append]
      · rfl
      · exact List.cons_ne_nil _ _

end Json

namespace Findings

theorem printable_toJson (findings : Findings) : Json.Printable findings.toJson := by
  refine ⟨trivial, ?_, trivial⟩
  apply Json.printable_array
  intro item member
  obtain ⟨issue, -, rfl⟩ := List.mem_map.mp member
  trivial

theorem ofJson?_toJson (findings : Findings) : ofJson? findings.toJson = some findings := by
  have once : ["passed", "issues"].Nodup := by decide
  have issues : Json.list? Json.string? (.array (findings.issues.map Json.string)) =
      some findings.issues := Json.list?_array fun issue _ => rfl
  rw [ofJson?, toJson, Json.fields?_object]
  · simp only [Option.bind_eq_bind, Option.bind_some, Json.required_known, Json.orElse_known,
      List.mem_cons, true_or, or_true, List.lookup_cons, String.reduceBEq, beq_self_eq_true,
      Option.elim_some, issues]
    rfl
  · exact once

/-- Whether the braces in the issues, taken together, close only what they open and leave nothing
open. -/
def Balanced (findings : Findings) : Prop :=
  Json.openAfter? 1 (findings.issues.flatMap String.toList) = some 1

instance (findings : Findings) : Decidable findings.Balanced :=
  inferInstanceAs (Decidable (_ = _))

/-- Outside the issues a verdict has no braces but the outermost. -/
theorem openAfter?_members (findings : Findings) :
    Json.openAfter? 1 (Json.compactMembers [("passed", .bool findings.passed),
      ("issues", .array (findings.issues.map Json.string))]) =
      Json.openAfter? 1 (findings.issues.flatMap String.toList) := by
  have passed : (Json.compact (.bool findings.passed)).filter Json.isBrace = [] := by
    cases findings.passed <;> rfl
  have passedName : (Json.quoted "passed".toList).filter Json.isBrace = [] := by decide
  have issuesName : (Json.quoted "issues".toList).filter Json.isBrace = [] := by decide
  have colon (rest : List Char) : (':' :: rest).filter Json.isBrace = rest.filter Json.isBrace :=
    rfl
  have comma (rest : List Char) : (',' :: rest).filter Json.isBrace = rest.filter Json.isBrace :=
    rfl
  have issues : (Json.compact (.array (findings.issues.map Json.string))).filter Json.isBrace =
      (findings.issues.flatMap String.toList).filter Json.isBrace := by
    have opening (rest : List Char) : ('[' :: rest).filter Json.isBrace =
        rest.filter Json.isBrace := rfl
    have closing : [']'].filter Json.isBrace = [] := rfl
    rw [Json.compact, List.cons_append, opening, List.filter_append, closing, List.append_nil,
      Json.filter_isBrace_compactItems]
  rw [← Json.openAfter?_filter, ← Json.openAfter?_filter 1 (findings.issues.flatMap _)]
  simp only [Json.compactMembers, List.filter_append, passedName, issuesName, colon, comma,
    passed, issues, List.nil_append]

end Findings

/-! ### Reading a verdict -/

namespace Generator.Model

/-- A reply with a verdict after a text without an opening brace is read as the verdict if the
braces in its issues are balanced, and else accepts the artifact. -/
theorem readVerdict_eq (findings : Findings) {before after : String}
    (noBrace : '\x7b' ∉ before.toList) :
    readVerdict (before ++ String.ofList findings.toJson.compact ++ after) =
      if findings.Balanced then findings else .pass := by
  have spells := Json.spells_compact findings.printable_toJson
  have found := @Json.extractObject?_of_spells _ _ after.toList _ noBrace spells
  have text : (before ++ String.ofList findings.toJson.compact ++ after).toList =
      before.toList ++ findings.toJson.compact ++ after.toList := by
    rw [String.toList_append, String.toList_append, String.toList_ofList]
  rw [findings.openAfter?_members] at found
  have block : (Json.extractObject? (before ++ String.ofList findings.toJson.compact ++
      after).toList).bind Json.ofText? =
        if findings.Balanced then some findings.toJson else none := by
    rw [text]
    exact found
  rw [readVerdict]
  simp only [Option.bind_eq_bind, ← Option.bind_assoc, block]
  by_cases balanced : findings.Balanced
  · simp only [balanced, ↓reduceIte, Option.bind_some, findings.ofJson?_toJson, Option.getD_some]
  · simp only [balanced, ↓reduceIte, Option.bind_none, Option.getD_none]

theorem balanced_pass : Findings.pass.Balanced := rfl

/-- A review of an artifact with content gives the verdict in the reply back exactly if the braces
in its issues are balanced; every other verdict, a rejection too, is lost and the artifact
accepted. -/
theorem review_of_verdict {σ : Type} {complete : String → σ → Except Failure String × σ}
    {artifact : Artifact} {task : String} {state next : σ} {findings : Findings}
    {before after : String} (hasContent : Text.trim artifact.content.toList ≠ [])
    (noBrace : '\x7b' ∉ before.toList)
    (replies : complete (reviewPrompt artifact.content task) state =
      (.ok (before ++ String.ofList findings.toJson.compact ++ after), next)) :
    review complete artifact task state =
        (.ok (if findings.Balanced then findings else .pass), next) ∧
      (review complete artifact task state = (.ok findings, next) ↔ findings.Balanced) := by
  have notEmpty : (Text.trim artifact.content.toList).isEmpty = false :=
    List.isEmpty_eq_false_iff.mpr hasContent
  have verdict : review complete artifact task state =
      (.ok (if findings.Balanced then findings else .pass), next) := by
    rw [review, notEmpty]
    simp only [Bool.false_eq_true, ↓reduceIte, ask, replies, Except.map, readVerdict_eq _ noBrace]
  refine ⟨verdict, ?_⟩
  rw [verdict]
  by_cases balanced : findings.Balanced
  · simp only [balanced, ↓reduceIte]
  · constructor
    · intro same
      rw [if_neg balanced] at same
      have accepted : Findings.pass = findings := Except.ok.inj (Prod.mk.inj same).1
      exact absurd (accepted ▸ balanced_pass) balanced
    · intro isBalanced
      exact absurd isBalanced balanced

end Generator.Model

namespace Sample

/-- A model that puts one verdict between two other texts, whatever it is asked. -/
def verdictReply (findings : Findings) (_ : String) (asked : Nat) : Except Failure String × Nat :=
  (.ok ("Verdict: " ++ String.ofList findings.toJson.compact ++ "."), asked + 1)

/-- A rejection that quotes a block comes back; one that quotes half a block is an acceptance. -/
theorem review_of_quoted_blocks :
    Generator.Model.review (verdictReply ⟨false, ["empty \x7b\x7d"]⟩) ⟨"main", 1⟩ "add" 0 =
        (.ok ⟨false, ["empty \x7b\x7d"]⟩, 1) ∧
      Generator.Model.review (verdictReply ⟨false, ["missing \x7d"]⟩) ⟨"main", 1⟩ "add" 0 =
        (.ok .pass, 1) := by
  have content : Text.trim "main".toList ≠ [] := by decide
  have noBrace : '\x7b' ∉ "Verdict: ".toList := by decide
  constructor
  · have balanced : Findings.Balanced ⟨false, ["empty \x7b\x7d"]⟩ := by decide
    exact (Generator.Model.review_of_verdict content noBrace rfl).2.mpr balanced
  · have unbalanced : ¬ Findings.Balanced ⟨false, ["missing \x7d"]⟩ := by decide
    have verdict := (@Generator.Model.review_of_verdict Nat
      (verdictReply ⟨false, ["missing \x7d"]⟩) ⟨"main", 1⟩ "add" 0 1 _ _ _ content noBrace rfl).1
    rwa [if_neg unbalanced] at verdict

end Sample

end TaskLoop
