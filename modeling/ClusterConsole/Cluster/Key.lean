/-!
# What a cluster is created from

A new cluster is described by fifteen inputs, each named by a key.  Three of them are required,
seven are optional texts and five are optional numbers.

* `Key` lists the inputs, and `Key.all` gives them in the order in which they are asked for and
  sent.
* `Fields` holds a text for every key.
-/

set_option autoImplicit false

namespace ClusterConsole

/-- The inputs for a new cluster. -/
inductive Key where
  | tenantOrgId
  | user
  | serviceName
  | ns
  | replicas
  | cpuRequest
  | cpuLimit
  | memRequest
  | memLimit
  | diskSize
  | gpuCount
  | dimension
  | vectorCount
  | indexLimit
  | gitlabUrl
  deriving DecidableEq, Repr

/-- What an input is read as. -/
inductive Shape where
  | required
  | text
  | number
  deriving DecidableEq, Repr

namespace Key

/-- All keys, in the order in which they are asked for and sent. -/
def all : List Key :=
  [.tenantOrgId, .user, .serviceName, .ns, .replicas, .cpuRequest, .cpuLimit, .memRequest,
    .memLimit, .diskSize, .gpuCount, .dimension, .vectorCount, .indexLimit, .gitlabUrl]

/-- Every key is among them. -/
theorem mem_all (k : Key) : k ∈ all := by cases k <;> decide

/-- The name under which an input is sent. -/
def name : Key → String
  | .tenantOrgId => "tenant_org_id"
  | .user => "user"
  | .serviceName => "service_name"
  | .ns => "namespace"
  | .replicas => "replicas"
  | .cpuRequest => "cpu_request"
  | .cpuLimit => "cpu_limit"
  | .memRequest => "mem_request"
  | .memLimit => "mem_limit"
  | .diskSize => "disk_size"
  | .gpuCount => "gpu_count"
  | .dimension => "dimension"
  | .vectorCount => "vector_count"
  | .indexLimit => "index_limit"
  | .gitlabUrl => "gitlab_url"

/-- The key with the given name. -/
def ofName? (name : String) : Option Key := all.find? fun k ↦ k.name == name

/-- What the input is read as. -/
def shape : Key → Shape
  | .tenantOrgId | .user | .serviceName => .required
  | .replicas | .gpuCount | .dimension | .vectorCount | .indexLimit => .number
  | .ns | .cpuRequest | .cpuLimit | .memRequest | .memLimit | .diskSize | .gitlabUrl => .text

end Key

/-- The inputs for a new cluster: one text for every key, empty where nothing was entered. -/
@[ext] structure Fields where
  text : Key → String

namespace Fields

instance : Inhabited Fields := ⟨⟨fun _ ↦ ""⟩⟩

/-- Every input empty. -/
def empty : Fields := ⟨fun _ ↦ ""⟩

/-- The inputs with one of them replaced. -/
def set (f : Fields) (key : Key) (value : String) : Fields :=
  ⟨fun k ↦ if k = key then value else f.text k⟩

@[simp] theorem text_set (f : Fields) (key k : Key) (value : String) :
    (f.set key value).text k = if k = key then value else f.text k := rfl

end Fields
end ClusterConsole
