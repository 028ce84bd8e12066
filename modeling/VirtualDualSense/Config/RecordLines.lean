import VirtualDualSense.Config.Vdsctl

/-!
# Records on one line

Requests, replies and the stored database are sequences of records that end in a line
feed. The readers split at line feeds, so a record must not contain one itself. Strings
are escaped when they are printed, and what the printer escapes the parser reads back.
-/

namespace VirtualDualSense.Config.RecordLines

open Lib.Scanners Lib.Text Controllers Jsonl Database Control Vdsctl

/-- `parse_jsonl_string` with the offsets in the whole text before and after the call. -/
def parseJsonlStringAt (text : List UInt8) (offset : Nat) :
    Except JsonlError (List UInt8 × Nat) := do
  let (value, rest) ← parseJsonlString (text.drop offset)
  return (value, text.length - rest.length)

/-- A text without control characters. -/
def Printed (text : List UInt8) : Prop := ∀ ch ∈ text, 0x20 ≤ ch

instance (text : List UInt8) : Decidable (Printed text) :=
  List.decidableBAll (0x20 ≤ ·) text

/-- A record and the line feed that ends it. -/
def OneLine (text : List UInt8) : Prop := ∃ record, Printed record ∧ text = record ++ [0x0a]

/-- Records, each on a line of its own. -/
def Records (text : List UInt8) : Prop :=
  ∃ lines : List (List UInt8), (∀ line ∈ lines, OneLine line) ∧ text = lines.flatten

section Printing

theorem Printed.append {left right : List UInt8} (hleft : Printed left) (hright : Printed right) :
    Printed (left ++ right) := by
  intro ch hch
  rcases List.mem_append.mp hch with h | h
  · exact hleft ch h
  · exact hright ch h

/-- Printed texts with commas between them. -/
theorem printed_intercalate {texts : List (List UInt8)} (h : ∀ text ∈ texts, Printed text) :
    Printed ([0x2c].intercalate texts) := by
  intro ch hch
  obtain hcomma | ⟨text, htext, hch⟩ := mem_of_mem_intercalate hch
  · rw [List.mem_singleton.mp hcomma]
    decide
  · exact h text htext ch hch

theorem printed_jsonlStringValue (value : List UInt8) : Printed (jsonlStringValue value) :=
  fun _ => le_of_mem_jsonlStringValue

theorem printed_jsonlStringField {key : List UInt8} (h : Printed key) (value : List UInt8) :
    Printed (jsonlStringField key value) := by
  have hopen : Printed [0x22] := by decide
  have hcolon : Printed [0x22, 0x3a] := by decide
  exact ((hopen.append h).append hcolon).append (printed_jsonlStringValue value)

theorem printed_jsonlUnsignedArrayField {key : List UInt8} (h : Printed key) (values : List Nat) :
    Printed (jsonlUnsignedArrayField key values) := by
  have hopen : Printed [0x22] := by decide
  have hcolon : Printed [0x22, 0x3a] := by decide
  exact ((hopen.append h).append hcolon).append fun _ => le_of_mem_jsonlUnsignedArray

theorem printed_jsonlBoolField {key : List UInt8} (h : Printed key) (value : Bool) :
    Printed (jsonlBoolField key value) := by
  have hopen : Printed [0x22] := by decide
  have hcolon : Printed [0x22, 0x3a] := by decide
  have hvalue : Printed (if value then ascii "true" else ascii "false") := by
    cases value <;> decide
  exact ((hopen.append h).append hcolon).append hvalue

/-- The record of printed fields is on one line. -/
theorem oneLine_formatRecord {fields : List (List UInt8)} (h : ∀ field ∈ fields, Printed field) :
    OneLine (formatRecord fields) := by
  have hopen : Printed [0x7b] := by decide
  have hclose : Printed [0x7d] := by decide
  refine ⟨[0x7b] ++ [0x2c].intercalate fields ++ [0x7d], ?_, ?_⟩
  · exact (hopen.append (printed_intercalate h)).append hclose
  · simp only [formatRecord, List.append_assoc, List.cons_append, List.nil_append]

theorem Records.of_oneLine {text : List UInt8} (h : OneLine text) : Records text :=
  ⟨[text], by simpa using h, by simp⟩

theorem records_flatMap {α : Type*} {items : List α} {print : α → List UInt8}
    (h : ∀ item ∈ items, OneLine (print item)) : Records (items.flatMap print) :=
  ⟨items.map print, by simpa using h, by rw [List.flatMap_def]⟩

end Printing

section Replies

theorem oneLine_errorReply (error : List UInt8) : OneLine (formatControlErrorReply error) := by
  refine oneLine_formatRecord ?_
  simp only [List.forall_mem_cons, List.not_mem_nil, false_implies, implies_true, and_true]
  exact ⟨printed_jsonlBoolField (by decide) _, printed_jsonlStringField (by decide) _⟩

theorem oneLine_attachReply (ok : Bool) (error : List UInt8) (config : ControllerConfig) :
    OneLine (formatControlAttachReply ok error config) := by
  refine oneLine_formatRecord ?_
  simp only [List.forall_mem_cons, List.not_mem_nil, false_implies, implies_true, and_true]
  exact ⟨printed_jsonlBoolField (by decide) _, printed_jsonlStringField (by decide) _,
    printed_jsonlStringField (by decide) _, printed_jsonlUnsignedArrayField (by decide) _,
    printed_jsonlStringField (by decide) _⟩

theorem oneLine_detachReply (ok : Bool) (error address : List UInt8) :
    OneLine (formatControlDetachReply ok error address) := by
  refine oneLine_formatRecord ?_
  simp only [List.forall_mem_cons, List.not_mem_nil, false_implies, implies_true, and_true]
  exact ⟨printed_jsonlBoolField (by decide) _, printed_jsonlStringField (by decide) _,
    printed_jsonlStringField (by decide) _⟩

theorem oneLine_traceReply (ok : Bool) (error : List UInt8) (traceFlags : UInt32) :
    OneLine (formatControlTraceReply ok error traceFlags) := by
  refine oneLine_formatRecord ?_
  simp only [List.forall_mem_cons, List.not_mem_nil, false_implies, implies_true, and_true]
  refine ⟨printed_jsonlBoolField (by decide) _, printed_jsonlStringField (by decide) _,
    printed_jsonlBoolField (by decide) _, ?_⟩
  have hopen : Printed (ascii "\"scope\":[") := by decide
  have hclose : Printed (ascii "]") := by decide
  refine (hopen.append (printed_intercalate ?_)).append hclose
  intro text htext
  obtain ⟨scope, -, rfl⟩ := List.mem_map.mp htext
  exact printed_jsonlStringValue scope

theorem oneLine_targetJsonl (target : ControllerTarget) (registered : Bool) :
    OneLine (formatControlTargetJsonl target registered) := by
  refine oneLine_formatRecord ?_
  simp only [List.forall_mem_cons, List.not_mem_nil, false_implies, implies_true, and_true]
  exact ⟨printed_jsonlStringField (by decide) _, printed_jsonlStringField (by decide) _,
    printed_jsonlBoolField (by decide) _, printed_jsonlBoolField (by decide) _⟩

theorem records_listReply (db : ConfigDb) (controllers : List VdsdControlControllerStatus) :
    Records (formatControlListReply db controllers) := by
  refine records_flatMap fun controller _ => oneLine_formatRecord ?_
  simp only [List.forall_mem_cons, List.not_mem_nil, false_implies, implies_true, and_true]
  exact ⟨printed_jsonlStringField (by decide) _, printed_jsonlBoolField (by decide) _,
    printed_jsonlStringField (by decide) _, printed_jsonlStringField (by decide) _,
    printed_jsonlUnsignedArrayField (by decide) _⟩

/-- Each target is listed on a line. -/
theorem records_listTargetsReply {db : ConfigDb} {targets : List ControllerTarget}
    {reply : List UInt8} (h : formatControlListTargetsReply db targets = .ok reply) :
    Records reply := by
  obtain ⟨lines, hlines, h⟩ := exists_of_bind_eq_ok h
  cases h
  refine ⟨lines, fun line hline => ?_, rfl⟩
  obtain ⟨target, -, hline⟩ := exists_of_mem_mapM hlines hline
  obtain ⟨registered, -, hline⟩ := exists_of_bind_eq_ok hline
  cases hline
  exact oneLine_targetJsonl target registered.isSome

theorem records_answerOr (input : ControlInput) {reply : Except ControlError (List UInt8)}
    (h : ∀ text, reply = .ok text → Records text) : Records (input.answerOr reply).reply := by
  cases reply with
  | error error => exact .of_oneLine (oneLine_errorReply error.what)
  | ok text => exact h text rfl

/-- Every reply to a control request is made of records on one line each. -/
theorem records_reply (portIndex : List UInt8 → Option Nat) (input : ControlInput) :
    Records (handleVdsdControlCommand portIndex input).reply := by
  unfold handleVdsdControlCommand
  split
  · exact .of_oneLine (oneLine_errorReply _)
  · split_ifs
    · unfold handleAttachControlRequest
      split
      · exact .of_oneLine (oneLine_attachReply _ _ _)
      · exact .of_oneLine (oneLine_attachReply _ _ _)
    · unfold handleDetachControlRequest
      split
      · exact .of_oneLine (oneLine_detachReply _ _ _)
      · exact .of_oneLine (oneLine_detachReply _ _ _)
      · exact .of_oneLine (oneLine_detachReply _ _ _)
    · refine records_answerOr input fun text htext => ?_
      obtain ⟨_, -, htext⟩ := exists_of_bind_eq_ok htext
      obtain ⟨db, -, htext⟩ := exists_of_bind_eq_ok htext
      cases htext
      exact records_listReply db _
    · refine records_answerOr input fun text htext => ?_
      obtain ⟨_, -, htext⟩ := exists_of_bind_eq_ok htext
      obtain ⟨db, -, htext⟩ := exists_of_bind_eq_ok htext
      obtain ⟨targets, -, htext⟩ := exists_of_bind_eq_ok htext
      exact records_listTargetsReply htext
    · refine .of_oneLine ?_
      dsimp only
      unfold handleTraceControlRequest
      split
      · exact oneLine_traceReply _ _ _
      · exact oneLine_traceReply _ _ _
    · exact .of_oneLine (oneLine_errorReply _)

end Replies

section Records

/-- The stored database has a controller on each line. -/
theorem records_serializeConfigDb (db : ConfigDb) : Records (serializeConfigDb db) := by
  refine records_flatMap fun config _ => ⟨serializeController config, ?_, rfl⟩
  have hopen : Printed [0x7b] := by decide
  have hcomma : Printed [0x2c] := by decide
  have hclose : Printed [0x7d] := by decide
  have haddress := printed_jsonlStringField (by decide : Printed (ascii "address")) config.address
  have hprofile := printed_jsonlStringField (by decide : Printed (ascii "profile"))
    (controllerProfileName config.profile)
  have hports := printed_jsonlUnsignedArrayField (by decide : Printed (ascii "ports")) config.ports
  exact (((((hopen.append haddress).append hcomma).append hprofile).append hcomma).append
    hports).append hclose

/-- A request is one record. -/
theorem oneLine_request (request : VdsctlRequest) : OneLine request.text := by
  cases request with
  | attach config =>
      refine oneLine_formatRecord ?_
      simp only [List.forall_mem_cons, List.not_mem_nil, false_implies, implies_true, and_true]
      exact ⟨printed_jsonlStringField (by decide) _, printed_jsonlStringField (by decide) _,
        printed_jsonlStringField (by decide) _, printed_jsonlUnsignedArrayField (by decide) _⟩
  | detach address =>
      refine oneLine_formatRecord ?_
      simp only [List.forall_mem_cons, List.not_mem_nil, false_implies, implies_true, and_true]
      exact ⟨printed_jsonlStringField (by decide) _, printed_jsonlStringField (by decide) _⟩
  | trace command =>
      refine oneLine_formatRecord ?_
      simp only [List.forall_mem_cons, List.not_mem_nil, false_implies, implies_true, and_true]
      exact ⟨printed_jsonlStringField (by decide) _, printed_jsonlStringField (by decide) _,
        printed_jsonlStringField (by decide) _⟩

end Records

theorem parseJsonlStringAt_value (value rest : List UInt8) :
    parseJsonlStringAt (jsonlStringValue value ++ rest) 0 =
      .ok (value, (jsonlStringValue value).length) := by
  have hoffset : (jsonlStringValue value ++ rest).length - rest.length =
      (jsonlStringValue value).length := by
    rw [List.length_append, Nat.add_sub_cancel]
  rw [parseJsonlStringAt, List.drop_zero, parseJsonlString_value, ok_bind]
  exact congrArg (fun offset => Except.ok (value, offset)) hoffset

/-- A printed string is read back up to what follows it, for every string of bytes, and has no
control character. Replies, records and requests therefore stay on their lines. -/
theorem jsonl_string_roundTrip (portIndex : List UInt8 → Option Nat) :
    (∀ value rest, parseJsonlString (jsonlStringValue value ++ rest) = .ok (value, rest) ∧
      parseJsonlStringAt (jsonlStringValue value ++ rest) 0 =
        .ok (value, (jsonlStringValue value).length)) ∧
    (∀ value, Printed (jsonlStringValue value)) ∧
    (∀ input, Records (handleVdsdControlCommand portIndex input).reply) ∧
    (∀ db, Records (serializeConfigDb db)) ∧
    ∀ request : VdsctlRequest, OneLine request.text :=
  ⟨fun value rest => ⟨parseJsonlString_value value rest, parseJsonlStringAt_value value rest⟩,
    printed_jsonlStringValue, records_reply portIndex, records_serializeConfigDb, oneLine_request⟩

end VirtualDualSense.Config.RecordLines
