/-!
# Operations

The console has five operations, each with a pane of its own.  The panes stand side by side in a
fixed order, and going on from the last one leads back to the first.
-/

set_option autoImplicit false

namespace ClusterConsole

/-- What the console can do with clusters. -/
inductive Operation where
  | create
  | delete
  | list
  | details
  | scale
  deriving DecidableEq, Repr

namespace Operation

/-- All operations, in the order of their panes. -/
def all : List Operation := [.create, .delete, .list, .details, .scale]

/-- Every operation is among them. -/
theorem mem_all (o : Operation) : o ∈ all := by cases o <;> decide

/-- The title of an operation. -/
def title : Operation → String
  | .create => "Create Cluster"
  | .delete => "Delete Cluster"
  | .list => "List Clusters"
  | .details => "Cluster Details"
  | .scale => "Scale Cluster"

/-- The place of an operation in the order. -/
def index : Operation → Nat
  | .create => 0
  | .delete => 1
  | .list => 2
  | .details => 3
  | .scale => 4

/-- The operation after this one. -/
def next : Operation → Operation
  | .create => .delete
  | .delete => .list
  | .list => .details
  | .details => .scale
  | .scale => .create

/-- The operation before this one. -/
def previous : Operation → Operation
  | .create => .scale
  | .delete => .create
  | .list => .delete
  | .details => .list
  | .scale => .details

@[simp] theorem previous_next (o : Operation) : o.next.previous = o := by cases o <;> rfl

@[simp] theorem next_previous (o : Operation) : o.previous.next = o := by cases o <;> rfl

/-- What is shown while a request of the operation is under way. -/
def pending : Operation → String
  | .create => "creating..."
  | .delete => "deleting..."
  | .list => "querying..."
  | .details => "querying details..."
  | .scale => "scaling..."

end Operation
end ClusterConsole
