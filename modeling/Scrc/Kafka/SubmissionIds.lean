import Scrc.Kafka.Decode
import Scrc.Kafka.Publisher

/-!
# Ids of submissions

A script without an id is named by the key of its message, or else by the topic and the offset.  The
partition is left out of the name, while Kafka counts the offsets of each partition on their own.
-/

namespace Scrc

/-- A message where Kafka keeps it.  Its topic, its partition and its offset identify it; the
decoder does not look at the partition. -/
structure TopicMessage where
  partition : Int64
  message : Message
  deriving DecidableEq

/-- Another message: one in another partition or at another offset. -/
def TopicMessage.Distinct (a b : TopicMessage) : Prop :=
  a.partition ≠ b.partition ∨ a.message.offset ≠ b.message.offset

/-- A message that is accepted and carries neither an id nor a key. -/
structure Unnamed (m : TopicMessage) (script : Script) : Prop where
  accepted : decodeScriptMessage m.message = .ok script
  noId : ∀ e, unmarshalEnvelope m.message.value = .ok e → e.id = []
  noKey : m.message.key = []

/-- Two result messages can be told apart, by their keys and by the ids in their envelopes. -/
def ToldApart (a b : ResultMessage) : Prop := a.key ≠ b.key ∧ a.value.id ≠ b.value.id

/-! ## The id of a decoded script -/

/-- A message is accepted with the id that `scriptID` gives it. -/
theorem decodeScriptMessage_id {msg : Message} {script : Script}
    (accepted : decodeScriptMessage msg = .ok script) :
    ∃ e, unmarshalEnvelope msg.value = .ok e ∧ script.id = e.scriptID msg := by
  obtain ⟨e, decoded, dispatched⟩ := decodeScriptMessage_ok.mp accepted
  obtain ⟨-, -, rfl⟩ := ScriptEnvelope.toScript_ok.mp (ScriptEnvelope.dispatch_ok.mp dispatched).2
  exact ⟨e, decoded, rfl⟩

/-- The name made up for a message without id and key. -/
theorem Unnamed.id {m : TopicMessage} {script : Script} (unnamed : Unnamed m script) :
    script.id = m.message.topic ++ lit ":" ++ Decimal.numeral m.message.offset.toInt := by
  obtain ⟨e, decoded, id⟩ := decodeScriptMessage_id unnamed.accepted
  rw [id]
  unfold ScriptEnvelope.scriptID
  simp only [unnamed.noId e decoded, unnamed.noKey, ↓reduceIte, intText_eq]

/-- **Fallback ids.**  The ids made up for two messages of a topic differ exactly when their offsets
do, and so do the keys and the envelope ids of what is published about them. -/
theorem fallbackIds_differ_iff (a b : TopicMessage) (s s' : Script)
    (topic : a.message.topic = b.message.topic) (first : Unnamed a s) (second : Unnamed b s') :
    (s.id ≠ s'.id ↔ a.message.offset ≠ b.message.offset) ∧
    ∀ timestamp timestamp' (r r' : RunReport), r.script = s → r'.script = s' →
      (ToldApart (resultMessage timestamp r) (resultMessage timestamp' r') ↔
        a.message.offset ≠ b.message.offset) := by
  have ids : s.id = s'.id ↔ a.message.offset = b.message.offset := by
    rw [first.id, second.id, topic]
    constructor
    · intro same
      exact Int64.toInt_inj.mp (Decimal.numeral_injective (List.append_cancel_left same))
    · intro same
      rw [same]
  refine ⟨not_congr ids, fun timestamp timestamp' r r' script script' => ?_⟩
  subst script
  subst script'
  exact (and_self_iff).trans (not_congr ids)

/-- A message that is not named: `print(1)` in Python. -/
def printOne (partition offset : Int64) : TopicMessage :=
  ⟨partition, "scripts", offset, [],
    "\x7b\"language\":\"python\",\"source\":\"print(1)\"\x7d"⟩

/-- Its script, under the name made up for it. -/
def printOneScript (offset : Int64) : Script :=
  { id := lit "scripts" ++ lit ":" ++ intText offset.toInt, language := .python,
    source := "print(1)" }

theorem printOne_unnamed (partition offset : Int64) :
    Unnamed (printOne partition offset) (printOneScript offset) := by
  have envelope : unmarshalEnvelope (printOne partition offset).message.value =
      .ok { language := "python", source := "print(1)" } := by rfl
  refine ⟨decodeScriptMessage_ok.mpr ⟨_, envelope, rfl⟩, fun e decoded => ?_, rfl⟩
  rw [envelope] at decoded
  cases decoded
  rfl

/-- Two messages of one partition. -/
theorem fallbackIds_differ_iff_offsets : (printOneScript 0).id ≠ (printOneScript 1).id :=
  (fallbackIds_differ_iff (printOne 0 0) (printOne 0 1) _ _ rfl (printOne_unnamed 0 0)
    (printOne_unnamed 0 1)).1.mpr (by decide)

/-- The first messages of two partitions have one id. -/
theorem firstMessages_same_id :
    ¬ ∀ (a b : TopicMessage) (s s' : Script), a.message.topic = b.message.topic → a.Distinct b →
        Unnamed a s → Unnamed b s' → s.id ≠ s'.id := by
  intro differ
  exact differ (printOne 0 0) (printOne 1 0) _ _ rfl (Or.inl (by decide)) (printOne_unnamed 0 0)
    (printOne_unnamed 1 0) rfl

end Scrc
