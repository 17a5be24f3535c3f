import TaskScript.Report

/-!
# Carrying out a job

A job comes down to a list of requests, made one after another until one is not answered with a
line. A job on nodes asks every node in order; any other job asks the collaborator of the domain
that its payload resolves to.
-/

namespace TaskScript

/-- Who is asked. -/
inductive Party where
  | domain (d : Domain)
  | node (index : Nat)
deriving DecidableEq

/-- A call of a collaborator. -/
structure Call where
  party : Party
  task : String
  args : Args
deriving DecidableEq

/-- A call still to be made, with the collaborator that will answer it. -/
structure Request where
  party : Party
  collaborator : Collaborator

namespace Request

/-- The call made for a job. -/
def call (request : Request) (job : Job) : Call := ⟨request.party, job.payload, job.args⟩

/-- The answer to that call. -/
def reply (request : Request) (job : Job) : Reply :=
  request.collaborator.answer job.payload job.args

/-- The failure of a job whose request is refused. -/
def blame (request : Request) (error : CollaboratorError) : JobError :=
  match request.party with
  | .domain _ => .collaborator error
  | .node index => .node index error

end Request

namespace Job

/-- The requests that a job comes down to, or why there are none. -/
def requests (c : Collaborators) (job : Job) : Except JobError (List Request) :=
  match job.mode with
  | .distributed =>
    if c.nodes.isEmpty then .error .noNodes
    else .ok (c.nodes.zipIdx.map fun (collaborator, index) => ⟨.node index, collaborator⟩)
  | .sync | .async =>
    match c.registry.resolve job.payload with
    | none => .error (.unresolved job.payload)
    | some domain => .ok [⟨.domain domain, c.ofDomain domain⟩]

/-- Makes requests in order, up to the first that is not answered with a line. Gives the calls made,
and the lines or the failure. -/
def ask (job : Job) : List Request → List Call × Except JobError (List String)
  | [] => ([], .ok [])
  | request :: rest =>
    match request.reply job with
    | .line text =>
      let (calls, result) := job.ask rest
      (request.call job :: calls, result.map (text :: ·))
    | .refusal error => ([request.call job], .error (request.blame error))
    | .crash text? => ([request.call job], .error (.crashed text?))

/-- Carries out a job: the calls made and how it ends. -/
def perform (c : Collaborators) (job : Job) : List Call × Status :=
  match job.requests c with
  | .error error => ([], .failed error)
  | .ok requests =>
    let (calls, result) := job.ask requests
    (calls, .ofResult result)

/-- How many milliseconds each call takes that the requests of a job lead to. -/
def askTimes (job : Job) : List Request → List Nat
  | [] => []
  | request :: rest =>
    request.collaborator.latency :: match request.reply job with
      | .line _ => job.askTimes rest
      | _ => []

/-- How many milliseconds each call of a job takes. -/
def latencies (c : Collaborators) (job : Job) : List Nat :=
  match job.requests c with
  | .error _ => []
  | .ok requests => job.askTimes requests

/-- How many turns bring the task of a job to its end: one to look at the flag, one to claim the
job, one for each request, one to settle the status and one to send it. -/
def turns (c : Collaborators) (job : Job) : Nat :=
  match job.requests c with
  | .error _ => 4
  | .ok requests => requests.length + 4

end Job

end TaskScript
