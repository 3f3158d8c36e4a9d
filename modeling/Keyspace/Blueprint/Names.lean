import Keyspace.Text.Words

/-!
# Names derived from a blueprint

Resources, parameters and code take their names from tables, variables and handlers. Every
backend goes through the functions here, so they agree on the names.
-/
namespace Keyspace

/-- The resource of a table: `order-events` is `OrderEvents`. -/
def tableLogicalId (table : String) : String := Text.pascalCase table

/-- The resource of the key that encrypts a table. -/
def keyLogicalId (table : String) : String := tableLogicalId table ++ "Key"

/-- The parameter that carries a table's physical name into nested stacks. -/
def tableParameter (table : String) : String := "Table" ++ Text.pascalCase table

/-- The parameter that carries a variable's value: `SENTRY_DSN` is `SentryDsn`. -/
def environmentParameter (name : String) : String := Text.pascalCase name

/-- The directory of a function's build output: `notifyCustomer` is `notify-customer`. -/
def artifactName (handler : String) : String := Text.kebabCase handler

def handlerStructName (handler : String) : String := Text.pascalCase handler

/-- The module of a handler, and the stem of its file. -/
def handlerModuleName (handler : String) : String := Text.snakeCase handler

/-- The nested stack that deploys a function. -/
def stackName (function : String) : String := function ++ "Stack"

/-- The path of a nested template, seen from the root template. -/
def nestedLocation (stack : String) : String := "nested/" ++ stack ++ ".yml"

end Keyspace
