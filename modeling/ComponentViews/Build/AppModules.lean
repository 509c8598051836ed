import ComponentViews.Dict
import ComponentViews.Text.Script

/-! The modules that every view may import although no file holds them: flags of
the environment, and access to the context that the wrapper component sets. -/

namespace ComponentViews.Build.AppModules

/-- The keys of the context that the wrapper component sets. -/
def propsKey : String := "global.props"
def storeKey : String := "global.store"
def assetsKey : String := "global.assets"
def allyKey : String := "global.ally"

def environmentId : String := "$app/env"
def globalId : String := "$app/global"

def flag (value : Bool) : String := if value then "true" else "false"

def constant (name value : String) : String := "export const " ++ name ++ " = " ++ value ++ ";\n"

/-- The module that names the environment and the side a view runs on. -/
def environmentModule (env : String) (browser : Bool) : String :=
  constant "browser" (flag browser) ++
  constant "server" (flag !browser) ++
  constant "env" ("\"" ++ Text.Script.escapeText env ++ "\"") ++
  constant "development" (flag (env == "development")) ++
  constant "testing" (flag (env == "testing")) ++
  constant "stage" (flag (env == "stage")) ++
  constant "production" (flag (env == "production"))

def globalLines : List String := [
  "import \x7b getContext \x7d from 'svelte';",
  "",
  "export const ContextKey = \x7b",
  "    GLOBAL_PROPS: '" ++ propsKey ++ "',",
  "    GLOBAL_STORE: '" ++ storeKey ++ "',",
  "    GLOBAL_ASSETS: '" ++ assetsKey ++ "',",
  "    GLOBAL_ALLY: '" ++ allyKey ++ "'",
  "\x7d;",
  "",
  "function getPath(target, key, fallback) \x7b",
  "    let current = target;",
  "    for (const part of String(key).split('.')) \x7b",
  "        if (current == null || !(part in Object(current))) \x7b",
  "            return fallback;",
  "        \x7d",
  "        current = current[part];",
  "    \x7d",
  "    return current;",
  "\x7d",
  "",
  "function setPath(target, key, value) \x7b",
  "    const parts = String(key).split('.');",
  "    let current = target;",
  "    for (const part of parts.slice(0, -1)) \x7b",
  "        if (current[part] == null || typeof current[part] !== 'object') \x7b",
  "            current[part] = \x7b\x7d;",
  "        \x7d",
  "        current = current[part];",
  "    \x7d",
  "    current[parts[parts.length - 1]] = value;",
  "\x7d",
  "",
  "export function getStores() \x7b",
  "    return getContext(ContextKey.GLOBAL_STORE);",
  "\x7d",
  "",
  "export function getStore(key) \x7b",
  "    return getPath(getStores(), key, null);",
  "\x7d",
  "",
  "export function setStore(key, value) \x7b",
  "    setPath(getStores(), key, value);",
  "\x7d",
  "",
  "export function getProps() \x7b",
  "    return getContext(ContextKey.GLOBAL_PROPS);",
  "\x7d",
  "",
  "export function getProp(key) \x7b",
  "    return getPath(getProps(), key, null);",
  "\x7d",
  "",
  "export function setProp(key, value) \x7b",
  "    setPath(getProps(), key, value);",
  "\x7d",
  "",
  "export function getAssets() \x7b",
  "    return getContext(ContextKey.GLOBAL_ASSETS);",
  "\x7d",
  "",
  "export function nextId(prefix = null) \x7b",
  "    const ally = getContext(ContextKey.GLOBAL_ALLY);",
  "    const key = prefix != null ? `prefix.$\x7bprefix\x7d` : 'counter';",
  "    const counter = (getPath(ally, key, 0) || 0) + 1;",
  "    setPath(ally, key, counter);",
  "    return counter;",
  "\x7d"]

/-- The module that reads and writes the global context. -/
def globalModule : String := String.join (globalLines.map (· ++ "\n"))

/-- The modules by the name under which a view imports them. -/
def modules (env : String) (browser : Bool) : Dict String :=
  Dict.ofList [(environmentId, environmentModule env browser), (globalId, globalModule)]

end ComponentViews.Build.AppModules
