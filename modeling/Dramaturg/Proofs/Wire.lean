import Dramaturg.Scene.Command
import Dramaturg.Transcript
import Dramaturg.Proofs.Number.Single
import Dramaturg.Proofs.Turn.Identifier

set_option autoImplicit false

/-! # What travels

Commands, lines of a transcript, messages and requests travel as JSON values. What is written is
read back as it was (`wire_forms_read_back`): an argument keeps its kind, since its kind is seen
from the value, and an optional member that is left out is absent again. A number that is not finite
has no form of its own, so a command is read back exactly if all its numbers are finite. -/

namespace Dramaturg

/-! ## Lists -/

namespace Json

variable {α : Type} {read : Json → Option α} {write : α → Json}

theorem asList?_array_map {xs : List α} (h : ∀ x ∈ xs, read (write x) = some x) :
    (array (xs.map write)).asList? read = some xs := by
  change (xs.map write).mapM read = some xs
  induction xs with
  | nil => rfl
  | cons x xs ih =>
    obtain ⟨hx, hxs⟩ := List.forall_mem_cons.1 h
    rw [List.map_cons, List.mapM_cons, hx, ih hxs]
    rfl

/-- A list is not read if one of its items is not. -/
theorem asList?_eq_none {items : List Json} {item : Json} (hitem : item ∈ items)
    (h : read item = none) : (array items).asList? read = none := by
  change items.mapM read = none
  induction items with
  | nil => cases hitem
  | cons j items ih =>
    rw [List.mapM_cons]
    rcases List.mem_cons.1 hitem with rfl | hitem
    · rw [h]
      rfl
    · rw [ih hitem]
      cases read j <;> rfl

end Json

/-! ## Commands -/

/-- Whether a value has a form of its own: its number, if it is one, is finite. -/
def ArgumentValue.IsWritable : ArgumentValue → Prop
  | .flag _ => True
  | .number x => x.isFinite = true
  | .text _ => True

instance (v : ArgumentValue) : Decidable v.IsWritable :=
  match v with
  | .flag _ => .isTrue trivial
  | .number x => inferInstanceAs (Decidable (x.isFinite = true))
  | .text _ => .isTrue trivial

theorem CommandKind.ofJson?_toJson (k : CommandKind) : ofJson? k.toJson = some k := by
  cases k <;> rfl

/-- A value is read back as a value of the same kind, and a number that is not finite not at all. -/
theorem ArgumentValue.ofJson?_toJson (v : ArgumentValue) :
    (v.IsWritable → ofJson? v.toJson = some v) ∧ (¬ v.IsWritable → ofJson? v.toJson = none) := by
  cases v with
  | flag b => exact ⟨fun _ => rfl, fun h => absurd trivial h⟩
  | text s => exact ⟨fun _ => rfl, fun h => absurd trivial h⟩
  | number x =>
    have hform : (number x).toJson = if x.isFinite then .ofFloat x else .null := rfl
    rw [hform]
    by_cases hfinite : x.isFinite = true
    · rw [if_pos hfinite]
      exact ⟨fun _ => rfl, fun h => absurd hfinite h⟩
    · rw [if_neg hfinite]
      exact ⟨fun h => absurd h hfinite, fun _ => rfl⟩

theorem Argument.ofJson?_toJson_eq (a : Argument) :
    ofJson? a.toJson = (ArgumentValue.ofJson? a.value.toJson).map (Argument.mk a.key) := by
  have hmembers : ofJson? a.toJson
      = (ArgumentValue.ofJson? a.value.toJson).bind fun value => some ⟨a.key, value⟩ := rfl
  rw [hmembers]
  cases ArgumentValue.ofJson? a.value.toJson <;> rfl

namespace Command

theorem ofJson?_toJson_eq (c : Command) :
    ofJson? c.toJson
      = ((Json.array (c.arguments.map Argument.toJson)).asList? Argument.ofJson?).map
          (Command.mk c.kind c.content) := by
  obtain ⟨kind, content, arguments⟩ := c
  have hmembers : ofJson? (toJson ⟨kind, content, arguments⟩)
      = (CommandKind.ofJson? kind.toJson).bind fun kind =>
          ((Json.array (arguments.map Argument.toJson)).asList? Argument.ofJson?).bind
            fun arguments => some ⟨kind, content, arguments⟩ := rfl
  rw [hmembers, CommandKind.ofJson?_toJson kind]
  cases (Json.array (arguments.map Argument.toJson)).asList? Argument.ofJson? <;> rfl

/-- A command is read back exactly if all its numbers are finite. -/
theorem ofJson?_toJson_iff (c : Command) :
    ofJson? c.toJson = some c ↔ ∀ a ∈ c.arguments, a.value.IsWritable := by
  rw [ofJson?_toJson_eq]
  constructor
  · intro hread a ha
    by_contra hvalue
    have hnone : Argument.ofJson? a.toJson = none := by
      rw [Argument.ofJson?_toJson_eq, (ArgumentValue.ofJson?_toJson a.value).2 hvalue]
      rfl
    rw [Json.asList?_eq_none (List.mem_map_of_mem ha) hnone] at hread
    cases hread
  · intro hvalues
    rw [Json.asList?_array_map fun a ha => ?_]
    · rfl
    · rw [Argument.ofJson?_toJson_eq, (ArgumentValue.ofJson?_toJson a.value).1 (hvalues a ha)]
      rfl

end Command

/-! ## Transcripts and chats -/

theorem TranscriptEntry.ofJson?_toJson (e : TranscriptEntry) : ofJson? e.toJson = some e := by
  obtain ⟨speaker, shown, _ | paragraph, reply⟩ := e <;> rfl

theorem Message.ofJson?_toJson (m : Message) : ofJson? m.toJson = some m := by
  obtain ⟨role, content⟩ := m
  cases role <;> rfl

theorem ChatRequest.ofJson?_toJson {r : ChatRequest} (htemperature : r.temperature.isFinite = true)
    (htokens : ∀ n ∈ r.maxTokens, n < Number.twoTo 32) : ofJson? r.toJson = some r := by
  obtain ⟨model, messages, temperature, maxTokens⟩ := r
  have hmessages := Json.asList?_array_map fun m (_ : m ∈ messages) => m.ofJson?_toJson
  have hsingle : (Json.ofSingle temperature).asSingle? = some temperature :=
    congrArg some (Number.narrow_widen htemperature)
  have hoptional : Json.optional? (Json.optionalMember "max_tokens" Json.ofNat maxTokens)
      "max_tokens" Json.asCount? = some maxTokens := by
    cases maxTokens with
    | none => rfl
    | some n =>
      have hcount : (Json.ofNat n).asCount? = some n := by
        have hbound := htokens n rfl
        simp [Json.ofNat, Json.asCount?, Json.asNat?, Json.asInteger?, hbound]
      change (Json.asCount? (Json.ofNat n)).map some = _
      rw [hcount]
      rfl
  have hmembers : ofJson? (toJson ⟨model, messages, temperature, maxTokens⟩)
      = ((Json.array (messages.map Message.toJson)).asList? Message.ofJson?).bind fun messages =>
          (Json.ofSingle temperature).asSingle?.bind fun temperature =>
            (Json.optional? (Json.optionalMember "max_tokens" Json.ofNat maxTokens) "max_tokens"
              Json.asCount?).bind fun maxTokens =>
                some ⟨model, messages, temperature, maxTokens⟩ := by
    cases maxTokens <;> rfl
  rw [hmembers, hmessages, hsingle, hoptional]
  rfl

/-! ## Requests for turns -/

theorem Channels.ofJson?_toJson (c : Channels) : ofJson? c.toJson = some c := rfl

theorem TurnRequest.ofJson?_toJson (r : TurnRequest) : ofJson? r.toJson = some r := by
  obtain ⟨id, prompt, model, channels, showAfterPoint⟩ := r
  have hid : TurnId.ofText? id.text = some id := id.ofText?_text
  have hmembers : ofJson? (toJson ⟨id, prompt, model, channels, showAfterPoint⟩)
      = (TurnId.ofText? id.text).bind fun id =>
          some ⟨id, prompt, model, channels, showAfterPoint⟩ := by
    cases model <;> rfl
  rw [hmembers, hid]
  rfl

/-! ## All of them -/

/-- **What is written is read back.** -/
theorem wire_forms_read_back :
    (∀ c : Command, Command.ofJson? c.toJson = some c ↔ ∀ a ∈ c.arguments, a.value.IsWritable) ∧
      (∀ e : TranscriptEntry, TranscriptEntry.ofJson? e.toJson = some e) ∧
      (∀ m : Message, Message.ofJson? m.toJson = some m) ∧
      (∀ r : ChatRequest, r.temperature.isFinite = true →
        (∀ n ∈ r.maxTokens, n < Number.twoTo 32) → ChatRequest.ofJson? r.toJson = some r) ∧
      (∀ c : Channels, Channels.ofJson? c.toJson = some c) ∧
      (∀ r : TurnRequest, TurnRequest.ofJson? r.toJson = some r) :=
  ⟨Command.ofJson?_toJson_iff, TranscriptEntry.ofJson?_toJson, Message.ofJson?_toJson,
    fun _ => ChatRequest.ofJson?_toJson, Channels.ofJson?_toJson, TurnRequest.ofJson?_toJson⟩

/-- A command whose arguments look like one another. -/
def ambiguous : Command :=
  ⟨.changeFigure, "alice.json", [⟨"id", .ofNat 1⟩, ⟨"id", .text "1"⟩, ⟨"next", .flag true⟩,
    ⟨"next", .text "true"⟩, ⟨"", .text ""⟩]⟩

/-- Flags, numbers and texts that look alike are told apart, and a request keeps its temperature. -/
theorem ambiguous_reads_back :
    let r : ChatRequest := ⟨"m", [.user "Hi!"], ChatRequest.defaultTemperature, some 10000⟩
    (∀ a ∈ ambiguous.arguments, a.value.IsWritable) ∧
      Command.ofJson? ambiguous.toJson = some ambiguous ∧
      r.temperature.isFinite = true ∧ (∀ n ∈ r.maxTokens, n < Number.twoTo 32) ∧
      ChatRequest.ofJson? r.toJson = some r := by
  intro r
  have hwritable : ∀ a ∈ ambiguous.arguments, a.value.IsWritable := by decide +kernel
  have htemperature : r.temperature.isFinite = true := by decide +kernel
  have htokens : ∀ n ∈ r.maxTokens, n < Number.twoTo 32 := by
    rintro n ⟨⟩
    decide
  obtain ⟨hcommand, -, -, hrequest, -, -⟩ := wire_forms_read_back
  exact ⟨hwritable, (hcommand ambiguous).2 hwritable, htemperature, htokens,
    hrequest r htemperature htokens⟩

end Dramaturg
