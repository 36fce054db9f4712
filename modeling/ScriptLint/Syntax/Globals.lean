import ScriptLint.Text.Basic

/-!
Names that need no declaration: the built-in objects of the language and the common ones of
browsers and servers.
-/
namespace ScriptLint

def builtinGlobals : List String := [
  "AbortController", "AbortSignal", "AggregateError", "Array", "ArrayBuffer", "Atomics", "BigInt",
  "BigInt64Array", "BigUint64Array", "Blob", "Boolean", "Buffer", "CSS", "CSSStyleDeclaration",
  "CustomEvent", "DOMException", "DOMParser", "DataView", "Date", "Document", "Element", "Error",
  "EvalError", "Event", "EventTarget", "File", "FileReader", "FinalizationRegistry",
  "Float32Array", "Float64Array", "FormData", "Function", "HTMLCanvasElement", "HTMLDivElement",
  "HTMLElement", "HTMLInputElement", "Headers", "IDBDatabase", "Image", "Infinity", "Int16Array",
  "Int32Array", "Int8Array", "IntersectionObserver", "Intl", "JSON", "KeyboardEvent", "Map",
  "Math", "MessageChannel", "MouseEvent", "MutationObserver", "NaN", "Node", "NodeList", "Number",
  "Object", "Promise", "Proxy", "RangeError", "ReferenceError", "Reflect", "RegExp", "Request",
  "ResizeObserver", "Response", "Set", "SharedArrayBuffer", "String", "Symbol", "SyntaxError",
  "TextDecoder", "TextEncoder", "TypeError", "URIError", "URL", "URLSearchParams", "Uint16Array",
  "Uint32Array", "Uint8Array", "Uint8ClampedArray", "WeakMap", "WeakRef", "WeakSet",
  "WebAssembly", "WebSocket", "Window", "Worker", "XMLHttpRequest", "XMLSerializer", "__dirname",
  "__filename", "alert", "arguments", "atob", "btoa", "cancelAnimationFrame", "clearImmediate",
  "clearInterval", "clearTimeout", "confirm", "console", "crypto", "customElements", "decodeURI",
  "decodeURIComponent", "document", "encodeURI", "encodeURIComponent", "escape", "eval",
  "exports", "fetch", "global", "globalThis", "history", "isFinite", "isNaN", "localStorage",
  "location", "module", "navigator", "parseFloat", "parseInt", "performance", "process",
  "queueMicrotask", "requestAnimationFrame", "require", "self", "sessionStorage", "setImmediate",
  "setInterval", "setTimeout", "structuredClone", "undefined", "unescape", "window"]

def isBuiltinGlobal (name : Text) : Bool := builtinGlobals.contains (String.ofList name)

end ScriptLint
