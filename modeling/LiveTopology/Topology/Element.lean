/-!
This module contains the kinds of things that a topology is made of.
-/

namespace LiveTopology

inductive ElementKind where
  /-- An instance of the controlling software. -/
  | controller
  | device
  | link
  | host
  deriving DecidableEq, Repr

namespace ElementKind

def all : List ElementKind := [.controller, .device, .link, .host]

def word : ElementKind → String
  | .controller => "Instance"
  | .device => "Device"
  | .link => "Link"
  | .host => "Host"

/-- The name of the array that holds elements of the kind in a batch. -/
def batchKey : ElementKind → String
  | .controller => "instances"
  | .device => "devices"
  | .link => "links"
  | .host => "hosts"

end ElementKind

inductive Change where
  | add
  | update
  | remove
  deriving DecidableEq, Repr

namespace Change

def all : List Change := [.add, .update, .remove]

def word : Change → String
  | .add => "add"
  | .update => "update"
  | .remove => "remove"

/-- The word for the change at the beginning of a name. -/
def title : Change → String
  | .add => "Add"
  | .update => "Update"
  | .remove => "Remove"

end Change

end LiveTopology
