import Storyboard.Review.Signature

/-!
# The denylist

Constructs that composition code has no use for and that reach out of the realm
it runs in. The list is matched against the text as it stands, strings and
comments included; it is no sandbox.
-/

namespace Storyboard.Review

/-- A name that stands as a whole word. -/
def nameSignature (name : String) : Signature := ⟨name, .word, [.word name.toList], true⟩

/-- A call of a function, blanks allowed before the bracket. -/
def callSignature (label name : String) : Signature :=
  ⟨label, .word, [.word name.toList, .blanks, .word ['(']], false⟩

/-- A word with a point after it. -/
def memberSignature (label : String) (margin : Margin) : Signature :=
  ⟨label, margin, [.word label.toList], false⟩

/-- All forbidden constructs, in the order of their reports. -/
def denylist : List Signature := [
  callSignature "fetch()" "fetch",
  nameSignature "XMLHttpRequest",
  nameSignature "WebSocket",
  nameSignature "EventSource",
  callSignature "eval()" "eval",
  ⟨"new Function", .word, [.word "new".toList, .gap, .word "Function".toList], true⟩,
  callSignature "require()" "require",
  callSignature "dynamic import()" "import",
  memberSignature "process." .word,
  memberSignature "fs." .member,
  nameSignature "child_process",
  nameSignature "__dirname",
  nameSignature "__filename",
  memberSignature "globalThis." .word,
  nameSignature "window.location",
  nameSignature "document.cookie",
  memberSignature "navigator." .word,
  nameSignature "localStorage",
  nameSignature "sessionStorage",
  nameSignature "indexedDB",
  memberSignature "Buffer." .word,
  nameSignature "ServiceWorker",
  nameSignature "importScripts",
  nameSignature "this.constructor",
  nameSignature "Object.getPrototypeOf",
  nameSignature "arguments.callee"]

/-- The labels of the forbidden constructs in the code. -/
def forbiddenLabels (code : List Char) : List String :=
  (denylist.filter fun signature => signature.isIn code).map Signature.label

/-- The reports on forbidden constructs. -/
def forbiddenIssues (code : List Char) : List String :=
  (forbiddenLabels code).map fun label => s!"Forbidden pattern: {label}"

end Storyboard.Review
