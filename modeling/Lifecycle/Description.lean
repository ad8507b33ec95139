import Lifecycle.Interceptor
import Lifecycle.Text.Quoted

/-! How listeners and interceptors describe themselves to someone who looks into them: the name of
the kind of thing, and its parts by name between braces.
-/

namespace Lifecycle

def described (kind : String) (parts : List (String × String)) : String :=
  kind ++ " \x7b " ++ String.intercalate ", " (parts.map (fun part => part.1 ++ ": " ++ part.2))
    ++ " \x7d"

/-- The parts of a list between brackets. -/
def describedList (parts : List String) : String :=
  "[" ++ String.intercalate ", " parts ++ "]"

/-- A listener shows the name of its class and whether validation errors are fatal; its clock is
nobody's concern.
-/
def Listener.description (listener : Listener) : String :=
  described "EntityEventListener"
    [("class", Text.quoted listener.cls.name), ("fail_on_error", toString listener.failOnError)]

/-- A session factory shows its number, written as the given text, and its name. -/
def SessionFactory.description (factory : SessionFactory) (number : String) : String :=
  described "SessionFactory" [("id", number), ("name", Text.quoted factory.name)]

/-- A configuration shows all it holds. -/
def Config.description (config : Config) : String :=
  described "InterceptorConfig"
    [("fail_on_error", toString config.failOnError),
      ("fail_on_error_packages", describedList (config.packages.map Text.quoted))]

/-- Statistics show every count. -/
def Stats.description (stats : Stats) : String :=
  described "InterceptorStats"
    [("cached_listeners", toString stats.cachedListeners),
      ("cached_classes", toString stats.cachedClasses),
      ("listeners_created", toString stats.listenersCreated),
      ("eligibility_checks", toString stats.eligibilityChecks),
      ("cache_hits", toString stats.cacheHits)]

/-- An interceptor shows its home, its configuration and its statistics. -/
def Interceptor.description {ε μ : Type} (interceptor : Interceptor ε μ) (number : String)
    (stats : Stats) : String :=
  described "EventTriggeringInterceptor"
    [("session_factory", interceptor.home.description number),
      ("config", interceptor.config.description), ("stats", stats.description)]

end Lifecycle
