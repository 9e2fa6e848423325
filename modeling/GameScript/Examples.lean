/-!
# Bundled programs

Four small programs ship with the command line, each a complete script: an
atom that decays, a spawner of sparks, a pinger with two listeners, and a
firefly that drifts, glows and blinks. They are plain source text.
-/

namespace GameScript.Examples

/-- Decays by its charge every tick and destroys itself once drained. -/
def atom : String :=
  "\n" ++
  "component Atom \x7b\n" ++
  "    float energy = 100;\n" ++
  "    float charge = -1;\n" ++
  "\n" ++
  "    fn update(float dt) \x7b\n" ++
  "        energy += charge * dt;\n" ++
  "        if energy < 0 \x7b\n" ++
  "            destroy();\n" ++
  "        \x7d\n" ++
  "    \x7d\n" ++
  "\x7d\n"

/-- Spawns sparks on an interval and hears about every destroyed entity. -/
def spawner : String :=
  "\n" ++
  "component Spawner \x7b\n" ++
  "    float timer = 0;\n" ++
  "    float interval = 2;\n" ++
  "    int spawned = 0;\n" ++
  "\n" ++
  "    fn init(vec2 position) \x7b\n" ++
  "        subscribe(\"entityDestroyed\", \"onEntityDestroyed\");\n" ++
  "        log(\"Spawner ready at \" + position);\n" ++
  "    \x7d\n" ++
  "\n" ++
  "    fn update(float dt) \x7b\n" ++
  "        timer += dt;\n" ++
  "        if timer >= interval \x7b\n" ++
  "            timer = 0;\n" ++
  "            createEntity(\"spark\", randomVec2(100, 700, 100, 500));\n" ++
  "            spawned += 1;\n" ++
  "        \x7d\n" ++
  "    \x7d\n" ++
  "\n" ++
  "    fn onEntityDestroyed(map info) \x7b\n" ++
  "        log(\"Entity gone: \" + info);\n" ++
  "    \x7d\n" ++
  "\x7d\n"

/-- A pinger subscribes to `ping`; a listener and an echo only define the handler. -/
def pinger : String :=
  "\n" ++
  "component Pinger \x7b\n" ++
  "    float elapsed = 0;\n" ++
  "\n" ++
  "    fn init(vec2 position) \x7b\n" ++
  "        subscribe(\"ping\", \"onPing\");\n" ++
  "    \x7d\n" ++
  "\n" ++
  "    fn update(float dt) \x7b\n" ++
  "        elapsed += dt;\n" ++
  "        if elapsed >= 1 \x7b\n" ++
  "            elapsed = 0;\n" ++
  "            broadcast(\"ping\", getTime());\n" ++
  "        \x7d\n" ++
  "    \x7d\n" ++
  "\x7d\n" ++
  "\n" ++
  "component Listener \x7b\n" ++
  "    int heard = 0;\n" ++
  "    float last = 0;\n" ++
  "\n" ++
  "    fn onPing(float time) \x7b\n" ++
  "        heard += 1;\n" ++
  "        last = time;\n" ++
  "    \x7d\n" ++
  "\x7d\n" ++
  "\n" ++
  "component Echo \x7b\n" ++
  "    int heard = 0;\n" ++
  "\n" ++
  "    fn onPing(float time) \x7b\n" ++
  "        heard += 1;\n" ++
  "        log(\"Echo heard ping at \" + time);\n" ++
  "    \x7d\n" ++
  "\x7d\n"

/-- Drifts around its spawn point, glowing, and blinks on a timer. -/
def firefly : String :=
  "\n" ++
  "component Firefly \x7b\n" ++
  "    float phase = 0;\n" ++
  "    float glow = 0;\n" ++
  "    vec2 home;\n" ++
  "\n" ++
  "    fn init(vec2 position) \x7b\n" ++
  "        home = position;\n" ++
  "        phase = random() * 6.28;\n" ++
  "        scheduleCallback(3, \"blink\", 1);\n" ++
  "    \x7d\n" ++
  "\n" ++
  "    fn update(float dt) \x7b\n" ++
  "        phase += dt * 2;\n" ++
  "        glow = (sin(phase) + 1) / 2;\n" ++
  "        setOpacity(glow);\n" ++
  "        setPosition(home + vec2(cos(phase) * 20, sin(phase) * 10));\n" ++
  "        if glow > 0.95 \x7b\n" ++
  "            setSpriteFrame(1, 0);\n" ++
  "        \x7d\n" ++
  "        if glow < 0.05 \x7b\n" ++
  "            setSpriteFrame(0, 0);\n" ++
  "        \x7d\n" ++
  "    \x7d\n" ++
  "\n" ++
  "    fn blink(float times) \x7b\n" ++
  "        log(\"Firefly blink \" + times);\n" ++
  "        playSound(\"chime\", 0.5);\n" ++
  "        scheduleCallback(3, \"blink\", times + 1);\n" ++
  "    \x7d\n" ++
  "\x7d\n"

/-- The bundled programs by name, in name order. -/
def all : List (String × String) :=
  [("atom", atom), ("firefly", firefly), ("pinger", pinger), ("spawner", spawner)]

/-- The program of a name. -/
def find? (name : String) : Option String :=
  (all.find? (·.1 == name)).map (·.2)

end GameScript.Examples
