import Scrc.Go
import Scrc.Kafka.Messages
import Scrc.Lib.Interaction

/-!
# The publisher

`Publisher.PublishRunReport`: one message for a report, keyed by the id of its script, handed to
the Kafka writer under the context of the call.  The value of the message is the envelope; that it
is sent as JSON makes no difference here.
-/

namespace Scrc

open Interaction

/-- A message of the results topic. -/
structure ResultMessage where
  key : GoString
  value : ResultEnvelope
  deriving DecidableEq

/-- The message for a report, when its envelope is made at the time `timestamp`. -/
def resultMessage (timestamp : GoString) (report : RunReport) : ResultMessage where
  key := report.script.id
  value := makeResultEnvelope timestamp report

/-- `messageWriter`: `WriteMessages(ctx, msg)`. -/
structure WriteCall where
  ctx : Ctx
  msg : ResultMessage

abbrev Writer : Interface := ⟨WriteCall, fun _ => Except GoError Unit⟩

/-- `PublishRunReport(ctx, report)`; `none` is the nil error.  The branch in which `encodeRunReport`
fails is left out: it is not taken while the year has four digits. -/
def publishRunReport (timestamp : GoString) (ctx : Ctx) (report : RunReport) :
    Proc Writer (Option GoError) := do
  match ← Proc.ask (I := Writer) ⟨ctx, resultMessage timestamp report⟩ with
  | .error err => return some (.wrap "write message" err)
  | .ok _ => return none

structure PublisherConfig where
  brokers : List GoString
  topic : GoString
  deriving DecidableEq

/-- `NewPublisher`, up to the brokers and the topic of the `kafkago.Writer`. -/
def newPublisher (cfg : PublisherConfig) : Except GoError PublisherConfig :=
  if cfg.brokers = [] then .error (.new "at least one broker must be provided")
  else if cfg.topic = [] then .error (.new "topic must be provided")
  else .ok cfg

end Scrc
