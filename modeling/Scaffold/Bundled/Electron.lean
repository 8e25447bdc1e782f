set_option autoImplicit false

/-!
# Electron

The type of project that the program brings along: a desktop application with a renderer in one of
five frameworks, as the files of its folder.
-/
namespace Scaffold.Bundled.Electron

def text (lines : List String) : String := String.join (lines.map (· ++ "\n"))

def manifest : String := text [
  "name: electron",
  "description: Electron desktop application with a Vite renderer",
  "frameworks:",
  "  - vanilla",
  "  - vue",
  "  - react",
  "  - svelte",
  "  - solid",
  "options:",
  "  - pug",
  "  - tailwindcss",
  "  - scss",
  "  - sass",
  "default_framework: vanilla",
  "rewrites:",
  "  - framework: react",
  "    source: main.ts",
  "    target: main.tsx",
  "  - framework: solid",
  "    source: main.ts",
  "    target: main.tsx"]

def ignored : String := text [
  "node_modules",
  "out",
  "dist",
  "*.log"]

def readme : String := text [
  "# \x7b\x7b name | pascal_case \x7d\x7d",
  "",
  "\x7b\x7b description \x7d\x7d",
  "",
  "Generated by treeforge for the **\x7b\x7b framework \x7d\x7d** renderer" ++
    "\x7b% if options %\x7d with \x7b\x7b options | join(', ') \x7d\x7d\x7b% endif %\x7d.",
  "",
  "## Development",
  "",
  "```bash",
  "npm install",
  "npm run dev",
  "```",
  "",
  "## Build",
  "",
  "```bash",
  "npm run build",
  "```"]

def viteConfig : String := text [
  "import \x7b resolve \x7d from 'node:path'",
  "import \x7b defineConfig, externalizeDepsPlugin \x7d from 'electron-vite'",
  "\x7b% if is_vue() %\x7d",
  "import vue from '@vitejs/plugin-vue'",
  "\x7b% elif is_react() %\x7d",
  "import react from '@vitejs/plugin-react'",
  "\x7b% elif is_svelte() %\x7d",
  "import \x7b svelte \x7d from '@sveltejs/vite-plugin-svelte'",
  "\x7b% elif is_solid() %\x7d",
  "import solid from 'vite-plugin-solid'",
  "\x7b% endif %\x7d",
  "",
  "export default defineConfig(\x7b",
  "  main: \x7b",
  "    plugins: [externalizeDepsPlugin()],",
  "  \x7d,",
  "  preload: \x7b",
  "    plugins: [externalizeDepsPlugin()],",
  "  \x7d,",
  "  renderer: \x7b",
  "    root: '.',",
  "    resolve: \x7b",
  "      alias: \x7b '@': resolve('src') \x7d,",
  "    \x7d,",
  "\x7b% if is_vue() %\x7d",
  "    plugins: [vue()],",
  "\x7b% elif is_react() and has_option('pug') %\x7d",
  "    plugins: [react(\x7b babel: \x7b plugins: ['transform-react-pug'] \x7d \x7d)],",
  "\x7b% elif is_react() %\x7d",
  "    plugins: [react()],",
  "\x7b% elif is_svelte() %\x7d",
  "    plugins: [svelte()],",
  "\x7b% elif is_solid() %\x7d",
  "    plugins: [solid()],",
  "\x7b% endif %\x7d",
  "  \x7d,",
  "\x7d)"]

def page : String := text [
  "<!doctype html>",
  "<html lang=\"en\">",
  "  <head>",
  "    <meta charset=\"UTF-8\" />",
  "    <title>\x7b\x7b name | pascal_case \x7d\x7d</title>",
  "  </head>",
  "  <body>",
  "    <div id=\"app\"></div>",
  "\x7b% if is_react() or is_solid() %\x7d",
  "    <script type=\"module\" src=\"/src/renderer/main.tsx\"></script>",
  "\x7b% else %\x7d",
  "    <script type=\"module\" src=\"/src/renderer/main.ts\"></script>",
  "\x7b% endif %\x7d",
  "  </body>",
  "</html>"]

def package : String := text [
  "\x7b",
  "  \"name\": \"\x7b\x7b package_name \x7d\x7d\",",
  "  \"version\": \"0.1.0\",",
  "  \"description\": \"\x7b\x7b description \x7d\x7d\",",
  "  \"main\": \"./out/main/index.js\",",
  "  \"type\": \"module\",",
  "  \"scripts\": \x7b",
  "    \"dev\": \"electron-vite dev\",",
  "    \"build\": \"electron-vite build\",",
  "    \"preview\": \"electron-vite preview\",",
  "    \"typecheck\": \"tsc --noEmit\"",
  "  \x7d,",
  "  \"dependencies\": \x7b",
  "\x7b% if is_vue() %\x7d",
  "    \"pinia\": \"^2.2.0\",",
  "    \"vue\": \"^3.5.0\"",
  "\x7b% elif is_react() %\x7d",
  "    \"react\": \"^18.3.0\",",
  "    \"react-dom\": \"^18.3.0\"",
  "\x7b% elif is_svelte() %\x7d",
  "    \"svelte\": \"^5.0.0\"",
  "\x7b% elif is_solid() %\x7d",
  "    \"solid-js\": \"^1.9.0\"",
  "\x7b% endif %\x7d",
  "  \x7d,",
  "  \"devDependencies\": \x7b",
  "\x7b% if is_vue() %\x7d",
  "    \"@vitejs/plugin-vue\": \"^5.1.0\",",
  "\x7b% elif is_react() %\x7d",
  "    \"@types/react\": \"^18.3.0\",",
  "    \"@types/react-dom\": \"^18.3.0\",",
  "    \"@vitejs/plugin-react\": \"^4.3.0\",",
  "\x7b% elif is_svelte() %\x7d",
  "    \"@sveltejs/vite-plugin-svelte\": \"^4.0.0\",",
  "\x7b% elif is_solid() %\x7d",
  "    \"vite-plugin-solid\": \"^2.10.0\",",
  "\x7b% endif %\x7d",
  "\x7b% if has_option('pug') and is_react() %\x7d",
  "    \"babel-plugin-transform-react-pug\": \"^7.0.1\",",
  "\x7b% elif has_option('pug') %\x7d",
  "    \"pug\": \"^3.0.3\",",
  "\x7b% endif %\x7d",
  "\x7b% if has_option('tailwindcss') %\x7d",
  "    \"autoprefixer\": \"^10.4.20\",",
  "    \"postcss\": \"^8.4.47\",",
  "    \"tailwindcss\": \"^3.4.14\",",
  "\x7b% endif %\x7d",
  "\x7b% if has_any_option('scss', 'sass') %\x7d",
  "    \"sass\": \"^1.80.0\",",
  "\x7b% endif %\x7d",
  "    \"electron\": \"^33.0.0\",",
  "    \"electron-vite\": \"^2.3.0\",",
  "    \"typescript\": \"^5.6.0\",",
  "    \"vite\": \"^5.4.0\"",
  "  \x7d",
  "\x7d"]

def postcssConfig : String := text [
  "export default \x7b",
  "  plugins: \x7b",
  "    tailwindcss: \x7b\x7d,",
  "    autoprefixer: \x7b\x7d,",
  "  \x7d,",
  "\x7d"]

def mainIndex : String := text [
  "import \x7b join \x7d from 'node:path'",
  "import \x7b app, BrowserWindow \x7d from 'electron'",
  "",
  "function createWindow(): void \x7b",
  "  const window = new BrowserWindow(\x7b",
  "    width: 1024,",
  "    height: 768,",
  "    webPreferences: \x7b",
  "      preload: join(__dirname, '../preload/index.js'),",
  "      sandbox: false,",
  "    \x7d,",
  "  \x7d)",
  "",
  "  if (process.env['ELECTRON_RENDERER_URL']) \x7b",
  "    window.loadURL(process.env['ELECTRON_RENDERER_URL'])",
  "  \x7d else \x7b",
  "    window.loadFile(join(__dirname, '../renderer/index.html'))",
  "  \x7d",
  "\x7d",
  "",
  "app.whenReady().then(() => \x7b",
  "  createWindow()",
  "  app.on('activate', () => \x7b",
  "    if (BrowserWindow.getAllWindows().length === 0) createWindow()",
  "  \x7d)",
  "\x7d)",
  "",
  "app.on('window-all-closed', () => \x7b",
  "  if (process.platform !== 'darwin') app.quit()",
  "\x7d)"]

def preloadIndex : String := text [
  "import \x7b contextBridge \x7d from 'electron'",
  "",
  "contextBridge.exposeInMainWorld('platform', process.platform)"]

def reactApp : String := text [
  "import Home from './pages/Home'",
  "",
  "export default function App() \x7b",
  "  return (",
  "    <main className=\"app\">",
  "      <h1>\x7b\x7b name | pascal_case \x7d\x7d</h1>",
  "      <Home />",
  "    </main>",
  "  )",
  "\x7d"]

def solidApp : String := text [
  "import Home from './pages/Home'",
  "",
  "export default function App() \x7b",
  "  return (",
  "    <main class=\"app\">",
  "      <h1>\x7b\x7b name | pascal_case \x7d\x7d</h1>",
  "      <Home />",
  "    </main>",
  "  )",
  "\x7d"]

def svelteApp : String := text [
  "<script lang=\"ts\">",
  "  import Home from './pages/Home.svelte'",
  "</script>",
  "",
  "<main class=\"app\">",
  "  <h1>\x7b\x7b name | pascal_case \x7d\x7d</h1>",
  "  <Home />",
  "</main>"]

def vanillaApp : String := text [
  "import \x7b store \x7d from './state/store'",
  "",
  "export function createApp(root: HTMLElement): void \x7b",
  "  const title = document.createElement('h1')",
  "  title.textContent = '\x7b\x7b name | pascal_case \x7d\x7d'",
  "",
  "  const counter = document.createElement('button')",
  "  const update = (): void => \x7b",
  "    counter.textContent = `Clicked $\x7bstore.count\x7d times`",
  "  \x7d",
  "  counter.addEventListener('click', () => \x7b",
  "    store.increment()",
  "    update()",
  "  \x7d)",
  "  update()",
  "",
  "  root.append(title, counter)",
  "\x7d"]

def vueApp : String := text [
  "<script setup lang=\"ts\">",
  "import Home from './pages/Home.vue'",
  "</script>",
  "",
  "\x7b% if has_option('pug') %\x7d",
  "<template lang=\"pug\">",
  "main.app",
  "  h1 \x7b\x7b name | pascal_case \x7d\x7d",
  "  Home",
  "</template>",
  "\x7b% else %\x7d",
  "<template>",
  "  <main class=\"app\">",
  "    <h1>\x7b\x7b name | pascal_case \x7d\x7d</h1>",
  "    <Home />",
  "  </main>",
  "</template>",
  "\x7b% endif %\x7d"]

def rendererMain : String := text [
  "\x7b% if has_option('tailwindcss') %\x7d",
  "import './styles/main.css'",
  "\x7b% elif has_option('scss') %\x7d",
  "import './styles/variables.scss'",
  "import './styles/main.css'",
  "\x7b% elif has_option('sass') %\x7d",
  "import './styles/variables.sass'",
  "import './styles/main.css'",
  "\x7b% else %\x7d",
  "import './styles/main.css'",
  "\x7b% endif %\x7d",
  "\x7b% if is_vue() %\x7d",
  "import \x7b createApp \x7d from 'vue'",
  "import \x7b createPinia \x7d from 'pinia'",
  "import App from './App.vue'",
  "",
  "createApp(App).use(createPinia()).mount('#app')",
  "\x7b% elif is_react() %\x7d",
  "import \x7b StrictMode \x7d from 'react'",
  "import \x7b createRoot \x7d from 'react-dom/client'",
  "import App from './App'",
  "",
  "createRoot(document.getElementById('app')!).render(",
  "  <StrictMode>",
  "    <App />",
  "  </StrictMode>,",
  ")",
  "\x7b% elif is_svelte() %\x7d",
  "import \x7b mount \x7d from 'svelte'",
  "import App from './App.svelte'",
  "",
  "mount(App, \x7b target: document.getElementById('app')! \x7d)",
  "\x7b% elif is_solid() %\x7d",
  "import \x7b render \x7d from 'solid-js/web'",
  "import App from './App'",
  "",
  "render(() => <App />, document.getElementById('app')!)",
  "\x7b% else %\x7d",
  "import \x7b createApp \x7d from './App'",
  "",
  "createApp(document.getElementById('app')!)",
  "\x7b% endif %\x7d"]

def vueStore : String := text [
  "import \x7b defineStore \x7d from 'pinia'",
  "",
  "export const useCounterStore = defineStore('counter', \x7b",
  "  state: () => (\x7b count: 0 \x7d),",
  "  actions: \x7b",
  "    increment() \x7b",
  "      this.count += 1",
  "    \x7d,",
  "  \x7d,",
  "\x7d)"]

def tailwindStyles : String := text [
  "@tailwind base;",
  "@tailwind components;",
  "@tailwind utilities;",
  "",
  ".app \x7b",
  "  @apply p-8 font-sans;",
  "\x7d"]

def sassVariables : String := text [
  "$primary: #42b883",
  "$spacing: 1rem"]

def scssVariables : String := text [
  "$primary: #42b883;",
  "$spacing: 1rem;"]

def tailwindConfig : String := text [
  "/** @type \x7bimport('tailwindcss').Config\x7d */",
  "export default \x7b",
  "  content: [",
  "    './index.html',",
  "\x7b% if is_vue() %\x7d",
  "    './src/renderer/**/*.\x7bvue,ts\x7d',",
  "\x7b% elif is_svelte() %\x7d",
  "    './src/renderer/**/*.\x7bsvelte,ts\x7d',",
  "\x7b% else %\x7d",
  "    './src/renderer/**/*.\x7bts,tsx\x7d',",
  "\x7b% endif %\x7d",
  "  ],",
  "  theme: \x7b",
  "    extend: \x7b\x7d,",
  "  \x7d,",
  "  plugins: [],",
  "\x7d"]

def compilerConfig : String := text [
  "\x7b",
  "  \"compilerOptions\": \x7b",
  "    \"target\": \"ES2022\",",
  "    \"module\": \"ESNext\",",
  "    \"moduleResolution\": \"Bundler\",",
  "    \"strict\": true,",
  "    \"jsx\": \"preserve\",",
  "    \"skipLibCheck\": true,",
  "    \"baseUrl\": \".\",",
  "    \"paths\": \x7b",
  "      \"@/*\": [\"src/*\"]",
  "    \x7d",
  "  \x7d,",
  "  \"include\": [\"src/**/*\"]",
  "\x7d"]

def files : List (String × String) := [
  ("project.yaml", manifest),
  ("templates/.gitignore", ignored),
  ("templates/README.md.j2", readme),
  ("templates/electron.vite.config.ts.j2", viteConfig),
  ("templates/index.html.j2", page),
  ("templates/package.json.j2", package),
  ("templates/postcss.config.tailwindcss.js", postcssConfig),
  ("templates/src/main/index.ts", mainIndex),
  ("templates/src/preload/index.ts", preloadIndex),
  ("templates/src/renderer/App.react.tsx.j2", reactApp),
  ("templates/src/renderer/App.solid.tsx.j2", solidApp),
  ("templates/src/renderer/App.svelte.svelte.j2", svelteApp),
  ("templates/src/renderer/App.vanilla.ts.j2", vanillaApp),
  ("templates/src/renderer/App.vue.vue.j2", vueApp),
  ("templates/src/renderer/main.ts.j2", rendererMain),
  ("templates/src/renderer/state.vue/store.ts", vueStore),
  ("templates/src/renderer/styles/main.tailwindcss.css", tailwindStyles),
  ("templates/src/renderer/styles/variables.sass.sass", sassVariables),
  ("templates/src/renderer/styles/variables.scss.scss", scssVariables),
  ("templates/tailwind.config.tailwindcss.js.j2", tailwindConfig),
  ("templates/tsconfig.json", compilerConfig)]

end Scaffold.Bundled.Electron
