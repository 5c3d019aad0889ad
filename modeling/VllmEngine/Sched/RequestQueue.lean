import Mathlib.Data.List.AList
import VllmEngine.Sched.SchedRequest

set_option autoImplicit false

namespace VllmEngine.Sched

inductive SchedulingPolicy where
  | fcfs
  | priority
  deriving DecidableEq, Repr

abbrev Requests := AList fun _ : RequestId => SchedRequest

def Requests.before (requests : Requests) (reqId other : RequestId) : Bool :=
  match requests.lookup reqId, requests.lookup other with
  | some request, some against => request.before against
  | _, _ => false

-- A priority queue is the list of its elements in any order: its front is the least element.
namespace RequestQueue

def least (requests : Requests) : List RequestId → Option RequestId
  | [] => none
  | reqId :: rest =>
    match least requests rest with
    | none => some reqId
    | some other => if requests.before other reqId then some other else some reqId

def peekRequest (policy : SchedulingPolicy) (requests : Requests) (queue : List RequestId) :
    Option RequestId :=
  match policy with
  | .fcfs => queue.head?
  | .priority => least requests queue

def popRequest (queue : List RequestId) (reqId : RequestId) : List RequestId := queue.erase reqId

def addRequest (queue : List RequestId) (reqId : RequestId) : List RequestId := queue ++ [reqId]

def prependRequest (queue : List RequestId) (reqId : RequestId) : List RequestId := reqId :: queue

def prependRequests (queue others : List RequestId) : List RequestId := others.reverse ++ queue

def removeRequests (queue toRemove : List RequestId) : List RequestId :=
  queue.filter fun reqId => reqId ∉ toRemove

variable {queue : List RequestId} {requests : Requests}

theorem least_mem {reqId : RequestId}
    (found : least requests queue = some reqId) : reqId ∈ queue := by
  induction queue generalizing reqId with
  | nil => cases found
  | cons first rest ih =>
    unfold least at found
    cases later : least requests rest with
    | none =>
      rw [later] at found
      cases found
      exact List.mem_cons_self
    | some other =>
      rw [later] at found
      dsimp only at found
      split at found
      · cases found
        exact List.mem_cons_of_mem _ (ih later)
      · cases found
        exact List.mem_cons_self

theorem peekRequest_mem {policy : SchedulingPolicy} {reqId : RequestId}
    (found : peekRequest policy requests queue = some reqId) : reqId ∈ queue := by
  cases policy with
  | fcfs => exact List.mem_of_mem_head? found
  | priority => exact least_mem found

end RequestQueue

def removeAll (items toRemove : List RequestId) : List RequestId :=
  match toRemove with
  | [] => items
  | [item] => items.erase item
  | _ => items.filter fun item => item ∉ toRemove

end VllmEngine.Sched
