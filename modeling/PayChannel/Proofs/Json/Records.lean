import Mathlib
import PayChannel.Api.Json
import PayChannel.Proofs.Json.RoundTrip

/-!
# JSON: every record on the wire

A record stays the same when it is written and read, and the blanks around its text do not matter.
Events are only written, and no two of them have the same text: the first member tells their kind,
and then the other members are those of one layout.

* `decode_padded`    a written record among blanks is read as itself;
* `writeObject_injective`    an object of one layout determines its values;
* `records_faithful`    all records that are sent or received, and all events.
-/

set_option linter.unusedSectionVars false

namespace PayChannel

open Json

namespace Json

/-! ## Blanks around a record -/

def Blank (text : Bytes) : Prop :=
  ∀ b ∈ text, isBlank b = true

theorem skipBlanks_blank {before : Bytes} (h : Blank before) (input : Bytes) :
    skipBlanks (before ++ input) = skipBlanks input :=
  List.dropWhile_append_of_pos h

theorem skipBlanks_eq_nil {after : Bytes} (h : Blank after) : skipBlanks after = [] := by
  have h := skipBlanks_blank h []
  rwa [List.append_nil] at h

section
variable {α : Type} [Record α]

theorem read_blank {before : Bytes} (h : Blank before) (input : Bytes) :
    read α (before ++ input) = read α input := by
  unfold read readValues
  rw [skipBlanks_blank h]

theorem read_padded (hr : Readable (Record.layout α)) {before : Bytes} (h : Blank before) (a : α)
    (after : Bytes) : read α (before ++ write a ++ after) = .ok (a, after) := by
  rw [List.append_assoc, read_blank h]
  exact read_write hr a after

end

/-- a record of a type is written so that every reader gets it back, the one that wants the whole
text and the one that does not look past the record, whatever blanks stand before and after it -/
def Faithful (α : Type) [Record α] : Prop :=
  ∀ (a : α) (before after : Bytes), Blank before → Blank after →
    decode α (before ++ write a ++ after) = .ok a ∧
      decodeStart α (before ++ write a ++ after) = .ok a

theorem decode_padded {α : Type} [Record α] (hr : Readable (Record.layout α)) : Faithful α := by
  intro a before after hbefore hafter
  have hread := read_padded hr hbefore a after
  constructor
  · rw [decode, hread]
    exact if_pos (skipBlanks_eq_nil hafter)
  · rw [decodeStart, hread]

/-! ## Objects and what they were written from -/

theorem writeObject_injective {layout : Layout} (h : Readable layout) {vs ws : Values layout}
    (he : writeObject (writeMembers layout vs) = writeObject (writeMembers layout ws)) :
    vs = ws := by
  have hself : ∀ us : Values layout,
      readValues layout (writeObject (writeMembers layout us)) = .ok (us, []) := by
    intro us
    have hread := readValues_writeObject h us []
    have hconvert := convert_self h.nodup us
    unfold convert at hconvert
    rw [finished, hconvert, List.append_nil] at hread
    exact hread
  have hvs := hself vs
  rw [he, hself ws] at hvs
  cases hvs
  rfl

/-- a reader that only knows the first member of an object finds its value -/
theorem readValues_first {name : String} {kind : Kind} {fields : Layout}
    (h : Compatible ((name, kind) :: fields) [(name, kind)]) (v : kind.Value) (vs : Values fields) :
    readValues [(name, kind)] (writeObject (writeMembers ((name, kind) :: fields) (v, vs)))
      = .ok ((v, ()), []) := by
  have hread := readValues_writeObject h (v, vs) []
  have hname : name ∉ fields.map Prod.fst := (List.nodup_cons.mp h.nodup).1
  have hset : setSlot [(name, kind)] (noSlots [(name, kind)]) name kind v = (some v, ()) := by
    rw [noSlots, setSlot, if_pos rfl, dif_pos rfl]
  rw [slotsAfter, hset, slotsAfter_cons hname, List.append_nil] at hread
  exact hread

end Json

/-! ## Events -/

namespace Event

def layout : Event → Layout
  | opened _ => Record.layout Channel
  | funded .. => [("sender", .account), ("receiver", .account), ("amount", .amount),
      ("at", .word 64)]
  | claimed .. => [("sender", .account), ("receiver", .account), ("session_id", .word 32),
      ("amount", .amount)]
  | closed .. => [("sender", .account), ("receiver", .account), ("refunded", .amount),
      ("at", .word 64)]

def values : (e : Event) → Values e.layout
  | opened channel => Record.values channel
  | funded sender receiver amount height => (sender, receiver, amount, height, ())
  | claimed sender receiver sessionId amount => (sender, receiver, sessionId, amount, ())
  | closed sender receiver refunded height => (sender, receiver, refunded, height, ())

theorem members_eq (e : Event) : e.members = writeMembers e.layout e.values := by
  cases e <;> rfl

theorem toJson_eq (e : Event) :
    e.toJson = writeObject (writeMembers (("event", .text) :: e.layout) (e.name, e.values)) := by
  rw [toJson, members_eq, writeMembers, writeMembers, writeMembers, List.append_nil]

theorem readable_layout (e : Event) : Readable (("event", .text) :: e.layout) := by
  cases e <;> exact of_decide_eq_true rfl

theorem compatible_name (e : Event) :
    Compatible (("event", .text) :: e.layout) [("event", .text)] := by
  cases e <;> exact of_decide_eq_true rfl

theorem name_eq_of_toJson {e f : Event} (h : e.toJson = f.toJson) : e.name = f.name := by
  have he := readValues_first e.compatible_name e.name e.values
  have hf := readValues_first f.compatible_name f.name f.values
  rw [← toJson_eq] at he hf
  rw [h, hf] at he
  exact (congrArg (fun found => found.1.1) (Except.ok.inj he)).symm

theorem values_eq_of_toJson {e : Event} {ws : Values e.layout}
    (h : e.toJson = writeObject (writeMembers (("event", .text) :: e.layout) (e.name, ws))) :
    e.values = ws := by
  rw [toJson_eq] at h
  exact congrArg Prod.snd (writeObject_injective e.readable_layout h)

theorem toJson_injective : Function.Injective toJson := by
  intro e f h
  have hname := name_eq_of_toJson h
  rw [toJson_eq f] at h
  cases e with
  | opened channel =>
    cases f with
    | opened other =>
      have hvalues : Record.values channel = Record.values other := values_eq_of_toJson h
      have hchannel := congrArg Record.ofValues hvalues
      rw [Record.ofValues_values, Record.ofValues_values] at hchannel
      rw [hchannel]
    | _ => exact absurd hname (by simp [name])
  | funded sender receiver amount height =>
    cases f with
    | funded =>
      cases values_eq_of_toJson h
      rfl
    | _ => exact absurd hname (by simp [name])
  | claimed sender receiver sessionId amount =>
    cases f with
    | claimed =>
      cases values_eq_of_toJson h
      rfl
    | _ => exact absurd hname (by simp [name])
  | closed sender receiver refunded height =>
    cases f with
    | closed =>
      cases values_eq_of_toJson h
      rfl
    | _ => exact absurd hname (by simp [name])

end Event

/-! ## All of them -/

/-- every record that is sent or received is read as it was written, blanks around it or not, and
two different events have two different texts -/
theorem records_faithful :
    Faithful Channel ∧ Faithful Voucher ∧ Faithful Receipt ∧ Faithful Closing ∧
    Faithful ReceiverStats ∧ Faithful OpenRequest ∧ Faithful FundRequest ∧
    Faithful ClaimRequest ∧ Faithful CloseRequest ∧ Faithful CloseExpiredRequest ∧
    Faithful Session ∧ Faithful Holdings ∧ Function.Injective Event.toJson := by
  refine ⟨?_, ?_, ?_, ?_, ?_, ?_, ?_, ?_, ?_, ?_, ?_, ?_, Event.toJson_injective⟩ <;>
    exact decode_padded (by decide)

end PayChannel
