import Scrc.Runtime

/-!
# The Docker client

`dockerClient` and the other things the Docker runtime asks of its surroundings: the clock, the
contexts, and the cell that `ensureImage` shares between calls.  A call carries what the source
passes, its reply what the source inspects of the answer; a call that can fail replies with
`Except GoError`.

Docker's documented promises about a successful reply are built into the reply types: an attach
carries a connection, and an inspect carries the part of the answer that holds `State`.
-/

namespace Scrc

open Interaction

/-- `container.Config`, the fields that are set. -/
structure ContainerConfig where
  image : GoString
  cmd : List GoString
  attachStdout : Bool
  attachStderr : Bool
  attachStdin : Bool
  openStdin : Bool
  stdinOnce : Bool
  workingDir : GoString
  deriving DecidableEq

/-- `container.HostConfig`, the fields of `Resources` that are set; zero means no limit. -/
structure HostConfig where
  nanoCPUs : Int64
  memory : Int64
  memorySwap : Int64
  deriving DecidableEq

/-- A file put into a container. -/
structure FileSpec where
  name : GoString
  mode : Nat
  data : GoString
  deriving DecidableEq

/-- `container.WaitResponse`; `error` is the message of `Error` when that is not nil. -/
structure WaitResponse where
  statusCode : Int64
  error : Option GoString
  deriving DecidableEq, Inhabited

/-- The channel that the `select` of `waitForExit` receives from. -/
inductive WaitEvent where
  | status (response : WaitResponse)
  | errCh (err : GoError)
  | ctxDone (err : CtxErr)
  deriving DecidableEq

/-- One step of reading a tar archive: `Next` fails, or it yields a header and then the contents
can be read or not.  The end of the list is `io.EOF`. -/
inductive TarEntry where
  | invalid (err : GoError)
  | entry (regular : Bool) (contents : Except GoError GoString)

/-- A stream that is fetched by one call and read to its end: the call fails, the reading fails,
or it yields a value. -/
inductive Stream (α : Type) where
  | refused (err : GoError)
  | broken (err : GoError)
  | value (a : α)

/-- `pullErr` of a language: which of the two steps of `pullImage` failed, and with what. -/
inductive PullError where
  | pull (ref : GoString) (err : GoError)
  | consume (ref : GoString) (err : GoError)
  deriving DecidableEq

def PullError.toError : PullError → GoError
  | .pull ref err => .wrap (lit "pull image " ++ ref) err
  | .consume ref err => .wrap (lit "consume pull output for " ++ ref) err

/-- The calls of the Docker runtime. -/
inductive DockerCall where
  /-- `ctx.Err()` -/
  | ctxErr (ctx : Ctx)
  /-- `context.WithTimeout(parent, timeout)` -/
  | withTimeout (parent : Ctx) (timeout : Duration)
  /-- `time.Now()` -/
  | now
  /-- `time.Since(start)` -/
  | since (start : Int64)
  /-- The start of `pullOnce.Do`: whether this call runs the body. -/
  | pullOnceDo (language : Language)
  /-- The end of the body that `pullOnce.Do` ran. -/
  | pullOnceDone (language : Language)
  /-- `l.pullErr = err` -/
  | setPullErr (language : Language) (err : PullError)
  /-- `l.pullErr` -/
  | pullErr (language : Language)
  | imagePull (ctx : Ctx) (ref : GoString)
  | containerCreate (ctx : Ctx) (config : ContainerConfig) (host : HostConfig)
  | containerRemove (ctx : Ctx) (id : GoString) (force : Bool)
  | copyToContainer (ctx : Ctx) (id : GoString) (dstPath : GoString) (files : List FileSpec)
  | containerAttach (ctx : Ctx) (id : GoString)
  /-- `io.Copy(attach.Conn, reader)` -/
  | writeStdin (id : GoString) (data : GoString)
  /-- `CloseWrite` on the attached connection -/
  | closeWrite (id : GoString)
  /-- `attach.Close()` -/
  | closeAttach (id : GoString)
  | containerStart (ctx : Ctx) (id : GoString)
  /-- `ContainerWait` and the `select` over its channels and `ctx.Done()` -/
  | containerWait (ctx : Ctx) (id : GoString)
  | containerInspect (ctx : Ctx) (id : GoString)
  /-- `ContainerLogs`, demultiplexed by `stdcopy.StdCopy` -/
  | containerLogs (ctx : Ctx) (id : GoString)
  | containerStop (ctx : Ctx) (id : GoString)
  /-- `CopyFromContainer`, as the tar entries read from it -/
  | copyFromContainer (ctx : Ctx) (id : GoString) (srcPath : GoString)
  deriving DecidableEq

/-- The reply to each call. -/
@[reducible]
def DockerReply : DockerCall → Type
  | .ctxErr _ => Option CtxErr
  | .withTimeout _ _ => Unit
  | .now => Int64
  | .since _ => Duration
  | .pullOnceDo _ => Bool
  | .pullOnceDone _ => Unit
  | .setPullErr _ _ => Unit
  | .pullErr _ => Option PullError
  | .imagePull _ _ => Stream Unit
  | .containerCreate _ _ _ => Except GoError GoString
  | .containerRemove _ _ _ => Except GoError Unit
  | .copyToContainer _ _ _ _ => Except GoError Unit
  | .containerAttach _ _ => Except GoError Unit
  | .writeStdin _ _ => Except GoError Unit
  | .closeWrite _ => Unit
  | .closeAttach _ => Unit
  | .containerStart _ _ => Except GoError Unit
  | .containerWait _ _ => WaitEvent
  -- `State`, when present, with its `OOMKilled`
  | .containerInspect _ _ => Except GoError (Option Bool)
  | .containerLogs _ _ => Stream (GoString × GoString)
  | .containerStop _ _ => Except GoError Unit
  | .copyFromContainer _ _ _ => Except GoError (List TarEntry)

/-- The interface of the Docker runtime. -/
abbrev Docker : Interface := ⟨DockerCall, DockerReply⟩

/-- Make a call of the Docker runtime. -/
abbrev ask (c : DockerCall) : Proc Docker (DockerReply c) := Proc.ask (I := Docker) c

end Scrc
